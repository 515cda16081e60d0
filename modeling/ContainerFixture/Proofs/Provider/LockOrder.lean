import ContainerFixture.Proofs.Provider.Effects
import Mathlib.Logic.Relation

/-!
# The order of the locks

A registry of exit hooks has a lock of its own. It is held for one access only, and the steps of
interleaved calls leave it out. Here it is put back: a thread takes the lock of a registry before it
works on it and gives it back with that access, so that others may find it taken.

## Main result

`LockedRun.deadlockFree`: however calls interleave, an unfinished call can go on, or it waits for
one that can.

## Proof strategy

Locks have ranks: the cell of a provider, the slot of its exit hook, its lifecycle, a registry. A
thread that needs a lock holds only locks of lower ranks (`Sound.rank_lt`). So the rank of what is
needed grows from a waiting thread to the one that it waits for, and nothing ranks above a registry.
-/

namespace ContainerFixture

variable {σ ε π : Type}

/-- A lock that a thread may have to wait for. -/
inductive Lock where
  | guard (guard : Guard)
  | registry (host : HookHost)

def Lock.rank : Lock → Nat
  | .guard (.cell _) => 0
  | .guard (.slot _) => 1
  | .guard (.lifecycle _) => 2
  | .registry _ => 3

theorem Lock.rank_lt_four (lock : Lock) : lock.rank < 4 := by
  rcases lock with guard | host
  · cases guard <;> simp [Lock.rank]
  · exact Nat.lt_succ_self 3

/-- Where the exit hook of a provider is registered. -/
def Scope.host? : Scope → Option HookHost
  | .owned => none
  | .global host => some host

/-- A host that refuses every hook keeps none. -/
def HookHost.hasRegistry : HookHost → Bool
  | .manual | .process => true
  | .refusing _ => false

/-- The registry that the next access of a thread works on. -/
def ProviderGroup.registryAt (g : ProviderGroup σ ε π) (point : Point ε π) : Option HookHost :=
  let host := match point with
    | .inside _ (.registering host _) | .draining host => some host
    | .dropping p (some _) => (g.provider p).scope.host?
    | _ => none
  host.filter HookHost.hasRegistry

/-- A machine, and who holds the lock of each registry. -/
structure LockedMachine (σ ε π : Type) where
  machine : Machine σ ε π
  registrar : HookHost → Option Nat := fun _ => none

/-- One atomic access of thread `t`, where registries are locked. -/
inductive LockedStep (t : Nat) : LockedMachine σ ε π → Seen ε π → LockedMachine σ ε π → Prop where
  | elsewhere {m next : Machine σ ε π} {registrar : HookHost → Option Nat} {seen : Seen ε π}
      (away : m.group.registryAt (m.threads t) = none) (step : Step t m seen next) :
    LockedStep t ⟨m, registrar⟩ seen ⟨next, registrar⟩
  | lock {m : Machine σ ε π} {registrar : HookHost → Option Nat} {host : HookHost}
      (here : m.group.registryAt (m.threads t) = some host) (unheld : registrar host = none) :
    LockedStep t ⟨m, registrar⟩ .nothing ⟨m, Function.update registrar host (some t)⟩
  -- The lock is given back together with the access that it was taken for.
  | access {m next : Machine σ ε π} {registrar : HookHost → Option Nat} {host : HookHost}
      {seen : Seen ε π} (here : m.group.registryAt (m.threads t) = some host)
      (held : registrar host = some t) (step : Step t m seen next) :
    LockedStep t ⟨m, registrar⟩ seen ⟨next, Function.update registrar host none⟩

/-- A schedule of such steps, with what they showed. -/
inductive LockedRun (first : LockedMachine σ ε π) :
    List (Seen ε π) → LockedMachine σ ε π → Prop where
  | refl : LockedRun first [] first
  | step {m next : LockedMachine σ ε π} {trace : List (Seen ε π)} {seen : Seen ε π} {t : Nat}
      (before : LockedRun first trace m) (step : LockedStep t m seen next) :
    LockedRun first (trace ++ [seen]) next

theorem Run.locked {first m : Machine σ ε π} {trace : List (Seen ε π)} (run : Run first trace m) :
    ∃ trace', LockedRun ⟨first, fun _ => none⟩ trace' ⟨m, fun _ => none⟩ := by
  induction run with
  | refl => exact ⟨[], .refl⟩
  | @step m next trace seen t before step ih =>
    obtain ⟨trace', run⟩ := ih
    cases at' : m.group.registryAt (m.threads t) with
    | none => exact ⟨_, run.step (.elsewhere at' step)⟩
    | some host =>
      -- The lock is taken just before and given back at once, so that none is held in between.
      have locked := run.step (.lock at' rfl)
      have accessed := locked.step (.access at' (Function.update_self host _ _) step)
      rw [Function.update_idem, Function.update_eq_self_iff.mpr rfl] at accessed
      exact ⟨_, accessed⟩

namespace LockedMachine

variable {m : LockedMachine σ ε π} {t u : Nat} {lock : Lock}

def holder (m : LockedMachine σ ε π) : Lock → Option Nat
  | .guard guard => m.machine.holder guard
  | .registry host => m.registrar host

/-- The lock that a thread has to take before anything else. -/
inductive Needs (m : LockedMachine σ ε π) (t : Nat) : Lock → Prop where
  | enter {p : Nat} (here : m.machine.threads t = .entering p)
      (empty : (m.machine.group.provider p).provided = none) : Needs m t (.guard (.cell p))
  | commission {p : Nat} (here : m.machine.threads t = .inside p .locking) :
    Needs m t (.guard (.lifecycle p))
  | claim {p : Nat} {host : HookHost} {product : Option π}
      (here : m.machine.threads t = .inside p (.claiming host product)) :
    Needs m t (.guard (.slot p))
  | sweep {p : Nat} {asker : Asker ε} (here : m.machine.threads t = .teardown p asker .locking) :
    Needs m t (.guard (.lifecycle p))
  | seize {p : Nat} (here : m.machine.threads t = .seizing p) : Needs m t (.guard (.slot p))
  | register {host : HookHost} (here : m.machine.group.registryAt (m.machine.threads t) = some host)
      (unlocked : m.registrar host ≠ some t) : Needs m t (.registry host)

/-- A thread needs a lock that another one holds. -/
def Waits (m : LockedMachine σ ε π) (t u : Nat) : Prop :=
  ∃ lock, m.Needs t lock ∧ m.holder lock = some u

/-- A thread is in the middle of a call. -/
def Busy (m : LockedMachine σ ε π) (t : Nat) : Prop := m.machine.threads t ≠ .idle

def CanStep (m : LockedMachine σ ε π) (t : Nat) : Prop := ∃ seen next, LockedStep t m seen next

/-- What all steps keep: guards are held where the threads say so, and whoever holds the lock of a
registry is about to work on it. -/
structure Sound (m : LockedMachine σ ε π) : Prop where
  guarded : Guarded m.machine
  registrar : ∀ t host, m.registrar host = some t →
    m.machine.group.registryAt (m.machine.threads t) = some host

theorem Sound.busy (sound : m.Sound) (holds : m.holder lock = some t) : m.Busy t := by
  intro idle
  cases lock with
  | guard guard =>
    have held := (sound.guarded t guard).mpr holds
    simp [idle, Point.held] at held
  | registry host =>
    have near := sound.registrar t host holds
    simp [idle, ProviderGroup.registryAt] at near

/-- The locks are taken in the order of their ranks. -/
theorem Sound.rank_lt (sound : m.Sound) {held : Lock} (needs : m.Needs t lock)
    (holds : m.holder held = some t) : held.rank < lock.rank := by
  cases held with
  | registry host =>
    -- Nothing else is needed where a registry is worked on.
    have near := sound.registrar t host holds
    cases needs with
    | enter here | commission here | claim here | sweep here | seize here =>
      simp [here, ProviderGroup.registryAt] at near
    | register here unlocked =>
      obtain rfl := Option.some.inj (near.symm.trans here)
      exact absurd holds unlocked
  | guard guard =>
    have held := (sound.guarded t guard).mpr holds
    cases needs with
    | enter here | seize here => simp [here, Point.held] at held
    | commission here | claim here =>
      obtain rfl : guard = .cell _ := by simpa [here, Point.held, Provisioning.held] using held
      simp [Lock.rank]
    | @sweep p asker here =>
      -- A finish on the spot holds the slot, and a thread whose hook was refused holds the cell.
      rw [here] at held
      cases asker <;> simp_all [Point.held, Teardown.held, Asker.held, Lock.rank]
    | register here => cases guard <;> simp [Lock.rank]

theorem sound_atRest (g : ProviderGroup σ ε π) : Sound ⟨.atRest g, fun _ => none⟩ :=
  ⟨guarded_atRest g, fun _ _ held => nomatch held⟩

end LockedMachine

open LockedMachine

theorem Step.registryAt {t : Nat} {m next : Machine σ ε π} {seen : Seen ε π}
    (step : Step t m seen next) (point : Point ε π) :
    next.group.registryAt point = m.group.registryAt point := by
  unfold ProviderGroup.registryAt
  split
  · rfl
  · rfl
  · -- Only here does it depend on the providers, on a scope, which no step changes.
    rw [step.scope]
  · rfl

theorem LockedStep.sound {t : Nat} {m next : LockedMachine σ ε π} {seen : Seen ε π}
    (step : LockedStep t m seen next) (sound : m.Sound) : next.Sound := by
  cases step with
  | elsewhere away step =>
    refine ⟨step.guarded sound.guarded, ?_⟩
    intro u host held
    have near := sound.registrar u host held
    -- The mover was not about to work on a registry, so it holds the lock of none.
    have other : u ≠ t := by
      rintro rfl
      rw [away] at near
      cases near
    rw [step.registryAt, step.threads_of_ne other]
    exact near
  | @lock m registrar host here unheld =>
    refine ⟨sound.guarded, ?_⟩
    intro u other held
    by_cases same : other = host
    · subst same
      obtain rfl : t = u := by simpa using held
      exact here
    · exact sound.registrar u other (by simpa [Function.update_of_ne same] using held)
  | @access m next registrar host seen here held step =>
    refine ⟨step.guarded sound.guarded, ?_⟩
    intro u other held'
    have different : other ≠ host := by
      rintro rfl
      simp at held'
    have near := sound.registrar u other (by simpa [Function.update_of_ne different] using held')
    -- The mover gave back the only lock that it held.
    have elsewhere : u ≠ t := by
      rintro rfl
      exact different (Option.some.inj (near.symm.trans here))
    rw [step.registryAt, step.threads_of_ne elsewhere]
    exact near

theorem LockedRun.sound {g : ProviderGroup σ ε π} {trace : List (Seen ε π)}
    {m : LockedMachine σ ε π} (run : LockedRun ⟨.atRest g, fun _ => none⟩ trace m) : m.Sound := by
  induction run with
  | refl => exact sound_atRest g
  | step _ step ih => exact step.sound ih

namespace LockedMachine

variable {m : LockedMachine σ ε π} {t u : Nat} {lock : Lock}

/-! ### Going on -/

theorem Busy.exists_step (busy : m.Busy t)
    (free : ∀ guard, m.Needs t (.guard guard) → m.machine.holder guard = none) :
    ∃ seen next, Step t m.machine seen next := by
  cases here : m.machine.threads t with
  | idle => exact absurd here busy
  | checking p =>
    cases flag : (m.machine.group.provider p).finished with
    | true => exact ⟨_, _, .turnAway here flag⟩
    | false => exact ⟨_, _, .pass here flag⟩
  | entering p =>
    cases cell : (m.machine.group.provider p).provided with
    | some provision => exact ⟨_, _, .share here cell⟩
    | none => exact ⟨_, _, .enter here cell (free _ (.enter here cell))⟩
  | inside p progress =>
    cases progress with
    | locking => exact ⟨_, _, .lock here (free _ (.commission here))⟩
    | rechecking =>
      cases flag : (m.machine.group.provider p).finished with
      | true => exact ⟨_, _, .abandon here flag⟩
      | false => exact ⟨_, _, .begin here flag⟩
    | commissioning => exact ⟨_, _, .commission here⟩
    | commissioned outcome =>
      cases outcome with
      | error cause => exact ⟨_, _, .fail here⟩
      | ok product =>
        cases scope : (m.machine.group.provider p).scope with
        | owned => exact ⟨_, _, .succeed here scope⟩
        | global host => exact ⟨_, _, .succeedGlobal here scope⟩
    | claiming host product => exact ⟨_, _, .claim here (free _ (.claim here))⟩
    | keeping host product =>
      cases needless : (m.machine.group.provider p).hook.isSome ||
          (m.machine.group.provider p).finished with
      | true => exact ⟨_, _, .keepNone here needless⟩
      | false => exact ⟨_, _, .keep here needless⟩
    | registering host product =>
      cases registered : (m.machine.group.registerHook host p).1 with
      | ok id => exact ⟨_, _, .register here registered⟩
      | error reason => exact ⟨_, _, .refuse here registered⟩
    | noting product id => exact ⟨_, _, .note here⟩
    | leaving provision => exact ⟨_, _, .leave here⟩
  | answering p provision => exact ⟨_, _, .answer here⟩
  | deferring p => exact ⟨_, _, .defer here⟩
  | seizing p => exact ⟨_, _, .seize here (free _ (.seize here))⟩
  | withdrawing p => exact ⟨_, _, .withdraw here⟩
  | dropping p taken => exact ⟨_, _, .drop here⟩
  | teardown p asker progress =>
    cases progress with
    | flagging =>
      cases flag : (m.machine.group.provider p).finished with
      | true => exact ⟨_, _, .flagged here flag⟩
      | false => exact ⟨_, _, .flag here flag⟩
    | locking => exact ⟨_, _, .lockDown here (free _ (.sweep here))⟩
    | sweeping => exact ⟨_, _, .sweep here⟩
    | telling outcome => exact ⟨_, _, .tell here⟩
    | ended outcome =>
      cases asker with
      | finish => exact ⟨_, _, .finish here⟩
      | finishNow => exact ⟨_, _, .finishNow here⟩
      | exitHook ran left =>
        cases outcome with
        | ok _ => exact ⟨_, _, .hookSucceeded here⟩
        | error cause => exact ⟨_, _, .hookFailed here⟩
      | refusal cause => exact ⟨_, _, .refusedDown here⟩
  | draining host => exact ⟨_, _, .drain here⟩
  | firing ran left =>
    cases left with
    | nil => exact ⟨_, _, .fired here⟩
    | cons p left => exact ⟨_, _, .hook here⟩

theorem Busy.canStep (busy : m.Busy t) (free : ∀ lock, m.Needs t lock → m.holder lock = none) :
    m.CanStep t := by
  obtain ⟨machine, registrar⟩ := m
  obtain ⟨seen, next, step⟩ := busy.exists_step fun guard needs => free (.guard guard) needs
  cases at' : machine.group.registryAt (machine.threads t) with
  | none => exact ⟨_, _, .elsewhere at' step⟩
  | some host =>
    by_cases held : registrar host = some t
    · exact ⟨_, _, .access at' held step⟩
    · exact ⟨_, _, .lock at' (free (.registry host) (.register at' held))⟩

theorem Sound.rank_grows (sound : m.Sound) (holds : m.holder lock = some u) :
    m.Busy u ∧ ∀ lock', m.Needs u lock' → lock.rank < lock'.rank :=
  ⟨sound.busy holds, fun _ needs => sound.rank_lt needs holds⟩

theorem Sound.rank_grows_along (sound : m.Sound) (chain : Relation.TransGen m.Waits t u) :
    ∃ lock, m.Needs t lock ∧ ∀ lock', m.Needs u lock' → lock.rank < lock'.rank := by
  induction chain with
  | single waits =>
    obtain ⟨lock, needs, holds⟩ := waits
    exact ⟨lock, needs, (sound.rank_grows holds).2⟩
  | tail _ waits ih =>
    -- The last one waits for a lock above all before it, and its holder needs a higher one.
    obtain ⟨lock, needs, below⟩ := ih
    obtain ⟨middle, needed, holds⟩ := waits
    refine ⟨lock, needs, fun lock' needs' => ?_⟩
    exact Nat.lt_trans (below middle needed) ((sound.rank_grows holds).2 lock' needs')

/-- Behind every unfinished call there is one that can go on. The induction is on how many ranks
there are above what the thread needs. -/
theorem Sound.goes_on (sound : m.Sound) (busy : m.Busy t) :
    ∃ u, Relation.ReflTransGen m.Waits t u ∧ m.Busy u ∧ m.CanStep u := by
  suffices ∀ above t, m.Busy t → (∀ lock, m.Needs t lock → 4 ≤ lock.rank + above) →
      ∃ u, Relation.ReflTransGen m.Waits t u ∧ m.Busy u ∧ m.CanStep u from
    this 4 t busy fun lock _ => Nat.le_add_left 4 lock.rank
  intro above
  induction above with
  | zero =>
    intro t busy ranks
    refine ⟨t, .refl, busy, busy.canStep fun lock needs => ?_⟩
    exact absurd (ranks lock needs) (Nat.not_le.mpr lock.rank_lt_four)
  | succ above ih =>
    intro t busy ranks
    by_cases free : ∀ lock, m.Needs t lock → m.holder lock = none
    · exact ⟨t, .refl, busy, busy.canStep free⟩
    · push Not at free
      obtain ⟨lock, needs, taken⟩ := free
      obtain ⟨u, holds⟩ := Option.ne_none_iff_exists'.mp taken
      obtain ⟨busy', grows⟩ := sound.rank_grows holds
      obtain ⟨v, chain, goesOn⟩ := ih u busy' fun lock' needs' => by
        have first := ranks lock needs
        have second := grows lock' needs'
        omega
      exact ⟨v, .head ⟨lock, needs, holds⟩ chain, goesOn⟩

/-! ### Main result -/

/-- No deadlock: the threads whose calls are unfinished do not all wait for each other. -/
structure DeadlockFree (m : LockedMachine σ ε π) : Prop where
  -- A thread in the middle of a call can go on, or it waits, maybe through others that wait, for
  -- one that is in the middle of a call and can go on.
  goes_on : ∀ t, m.Busy t → ∃ u, Relation.ReflTransGen m.Waits t u ∧ m.Busy u ∧ m.CanStep u
  -- A thread that cannot go on waits for a lock, and no thread waits for itself, through whichever
  -- others.
  waits : ∀ t, m.Busy t → ¬ m.CanStep t → ∃ u, m.Waits t u
  acyclic : ∀ t, ¬ Relation.TransGen m.Waits t t

end LockedMachine

/-- The locks of providers and registries cannot deadlock, whatever the providers, their hosts and
the threads are. -/
theorem LockedRun.deadlockFree {g : ProviderGroup σ ε π} {trace : List (Seen ε π)}
    {m : LockedMachine σ ε π} (run : LockedRun ⟨.atRest g, fun _ => none⟩ trace m) :
    m.DeadlockFree := by
  have sound := run.sound
  refine ⟨fun t busy => sound.goes_on busy, fun t busy stuck => ?_, fun t cycle => ?_⟩
  · by_contra alone
    push Not at alone
    refine stuck (busy.canStep fun lock needs => ?_)
    -- A lock that is needed and held would be waited for.
    cases holds : m.holder lock with
    | none => rfl
    | some u => exact absurd ⟨lock, needs, holds⟩ (alone u)
  · obtain ⟨lock, needs, above⟩ := sound.rank_grows_along cycle
    exact absurd (above lock needs) (Nat.lt_irrefl _)

/-- A finish holds the slot and waits for a commission, another waits for that slot, and a firing
waits for the registry that a second one has locked. -/
theorem deadlockFree_of_finishing_twice :
    let chains : List (List (Stage Unit Unit Unit) × Scope) := [([], .global .manual)]
    ∃ trace m, LockedRun ⟨.atRest (.ofChains () chains), fun _ => none⟩ trace m ∧
      m.Waits 2 1 ∧ m.Waits 1 0 ∧ m.Waits 4 3 ∧ m.DeadlockFree := by
  intro chains
  have called : Run (.atRest (.ofChains () chains)) _ _ :=
    Run.refl.step (.callProvide (t := 0) (p := 0) rfl (by decide))
  have entered := (called.step (.pass (t := 0) rfl rfl)).step (.enter (t := 0) rfl rfl rfl)
  have commissioning := (entered.step (.lock (t := 0) rfl rfl)).step (.begin (t := 0) rfl rfl)
  have finishing := commissioning.step (.callFinishNow (t := 1) (p := 0) rfl (by decide))
  have emptied := (finishing.step (.seize (t := 1) rfl rfl)).step (.withdraw (t := 1) rfl)
  have flagged := (emptied.step (.drop (t := 1) rfl)).step (.flag (t := 1) rfl rfl)
  have again := flagged.step (.callFinishNow (t := 2) (p := 0) rfl (by decide))
  obtain ⟨_, locked⟩ := again.locked
  have fired := locked.step (.elsewhere rfl
    (.callFire rfl : Step 3 _ _ (Machine.move _ 3 (.draining .manual))))
  have draining := fired.step (.lock (t := 3) rfl rfl)
  have refired := draining.step (.elsewhere rfl
    (.callFire rfl : Step 4 _ _ (Machine.move _ 4 (.draining .manual))))
  refine ⟨_, _, refired, ⟨_, .seize rfl, rfl⟩, ⟨_, .sweep rfl, rfl⟩, ?_, refired.deadlockFree⟩
  exact ⟨_, .register rfl (by decide), rfl⟩

end ContainerFixture
