import ContainerFixture.Proofs.Provider.Memory

/-!
# Guards

A thread holds the guards that the place where it stands says (`Point.held`), and none else: this is
the invariant `Guarded`. Since a guard has one holder, two threads never stand at places that hold
the same guard (`Guarded.unique`).
-/

namespace ContainerFixture

variable {σ ε π : Type}

/-- The guards that a thread inside the cell of a provider holds. -/
def Provisioning.held (p : Nat) : Provisioning ε π → List Guard
  | .rechecking | .commissioning => [.lifecycle p, .cell p]
  | .keeping .. | .registering .. | .noting .. => [.slot p, .cell p]
  | .locking | .commissioned _ | .claiming .. | .leaving _ => [.cell p]

/-- The guards that are held all through a teardown. -/
def Asker.held (p : Nat) : Asker ε → List Guard
  | .finishNow => [.slot p]
  | .refusal _ => [.cell p]
  | .finish | .exitHook .. => []

/-- The guard that a teardown takes for itself. -/
def Teardown.held (p : Nat) : Teardown ε → List Guard
  | .sweeping => [.lifecycle p]
  | .flagging | .locking | .telling _ | .ended _ => []

def Point.held : Point ε π → List Guard
  | .inside p progress => progress.held p
  | .withdrawing p | .dropping p _ => [.slot p]
  | .teardown p asker progress => progress.held p ++ asker.held p
  | .idle | .checking _ | .entering _ | .answering .. | .deferring _ | .seizing _ | .draining _
  | .firing .. => []

theorem Point.held_nodup (point : Point ε π) : point.held.Nodup := by
  cases point with
  | inside p progress => cases progress <;> simp [held, Provisioning.held]
  | teardown p asker progress =>
    cases asker <;> cases progress <;> simp [held, Asker.held, Teardown.held]
  | _ => simp [held]

/-- Every guard is held by the thread whose place says so. -/
def Guarded (m : Machine σ ε π) : Prop :=
  ∀ t guard, guard ∈ (m.threads t).held ↔ m.holder guard = some t

namespace Guarded

variable {m : Machine σ ε π} {t : Nat} {point : Point ε π}

theorem unique (guarded : Guarded m) {u : Nat} {guard : Guard} (here : guard ∈ (m.threads t).held)
    (there : guard ∈ (m.threads u).held) : u = t := by
  have first := (guarded t guard).mp here
  have second := (guarded u guard).mp there
  exact Option.some.inj (second.symm.trans first)

theorem free_of_quiescent (guarded : Guarded m) (quiet : m.Quiescent) (guard : Guard) :
    m.holder guard = none := by
  cases holder : m.holder guard with
  | none => rfl
  | some u =>
    have held := (guarded u guard).mpr holder
    simp [quiet u, Point.held] at held

theorem put (guarded : Guarded m) (g : ProviderGroup σ ε π) : Guarded (m.put g) := guarded

theorem move (guarded : Guarded m) (same : point.held = (m.threads t).held) :
    Guarded (m.move t point) := by
  intro u guard
  by_cases here : u = t
  · subst here
    simpa [same] using guarded u guard
  · simpa [Function.update_of_ne here] using guarded u guard

theorem take (guarded : Guarded m) {taken : Guard} (unheld : m.holder taken = none)
    (more : point.held = taken :: (m.threads t).held) :
    Guarded ((m.take taken t).move t point) := by
  intro u guard
  have before := guarded u guard
  by_cases same : guard = taken
  · subst same
    by_cases here : u = t
    · subst here
      simp [more]
    · simp [Function.update_of_ne here, before, unheld, Ne.symm here]
  · by_cases here : u = t
    · subst here
      simpa [more, same, Function.update_of_ne same] using before
    · simpa [Function.update_of_ne here, Function.update_of_ne same] using before

theorem free (guarded : Guarded m) {freed : Guard}
    (less : (m.threads t).held = freed :: point.held) :
    Guarded ((m.free freed).move t point) := by
  have holder := (guarded t freed).mp (by simp [less])
  -- A guard that is given back was not held twice.
  have gone : freed ∉ point.held := by
    have distinct := (m.threads t).held_nodup
    rw [less] at distinct
    exact (List.nodup_cons.mp distinct).1
  intro u guard
  have before := guarded u guard
  by_cases same : guard = freed
  · subst same
    by_cases here : u = t
    · subst here
      simp [gone]
    · simp [Function.update_of_ne here, before, holder, Ne.symm here]
  · by_cases here : u = t
    · subst here
      simpa [less, same, Function.update_of_ne same] using before
    · simpa [Function.update_of_ne here, Function.update_of_ne same] using before

end Guarded

theorem guarded_atRest (g : ProviderGroup σ ε π) : Guarded (Machine.atRest g) := by
  intro t guard
  simp [Machine.atRest, Point.held]

/-- A step takes a guard that is free, gives back the one that it took last, or keeps what it
holds. -/
theorem Step.guarded {t : Nat} {m next : Machine σ ε π} {seen : Seen ε π}
    (step : Step t m seen next) (guarded : Guarded m) : Guarded next := by
  cases step with
  | enter here _ unheld | lock here unheld | claim here unheld | lockDown here unheld
  | seize here unheld => exact guarded.take unheld (by rw [here]; rfl)
  | abandon here | commission here | keepNone here | note here | refuse here | leave here
  | sweep here | finishNow here =>
    exact (guarded.put _).free (by rw [Machine.threads_put, here]; rfl)
  | callProvide here | callFinish here | callDefer here | callFinishNow here | callFire here
  | turnAway here | pass here | share here | begin here | fail here | succeed here
  | succeedGlobal here | keep here | register here | answer here | flag here | flagged here
  | tell here | finish here | hookSucceeded here | hookFailed here | refusedDown here | defer here
  | withdraw here | drop here | drain here | hook here | fired here =>
    exact (guarded.put _).move (by rw [Machine.threads_put, here]; rfl)

theorem Run.guarded {g : ProviderGroup σ ε π} {trace : List (Seen ε π)} {m : Machine σ ε π}
    (run : Run (.atRest g) trace m) : Guarded m := by
  induction run with
  | refl => exact guarded_atRest g
  | step _ step ih => exact step.guarded ih

end ContainerFixture
