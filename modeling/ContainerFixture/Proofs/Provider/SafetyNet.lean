import ContainerFixture.Proofs.Provider.HookPhase
import ContainerFixture.Proofs.Provider.Solo
import ContainerFixture.Proofs.Provider.Stages

/-!
# The safety net of a global provider

Main result: `Run.safetyNet`. While nobody is calling, a global provider whose host takes hooks has
a pending exit hook exactly if it was commissioned and is not finished; so firing the hooks releases
whatever is committed.

What can be between a commission and its hook is one thread inside the cell (`Point.claims`), and
what can be between a hook and the flag is a thread that is bound to set it (`Point.bound`). Neither
is there when all calls have returned.
-/

namespace ContainerFixture

variable {σ ε π : Type}

/-- Whether a thread is about to see to the exit hook of a provider that was commissioned. -/
def Point.claims (p : Nat) : Point ε π → Prop
  | .inside q (.commissioned (.ok _)) | .inside q (.claiming ..) | .inside q (.keeping ..)
  | .inside q (.registering ..) => q = p
  | _ => False

section
variable {t p : Nat} {m next : Machine σ ε π} {seen : Seen ε π} {trace : List (Seen ε π)}
  {host : HookHost}

/-- A thread that sees to the exit hook goes on until it registers it, or finds that there is one or
that the provider is finished. -/
theorem Step.claims_cases (step : Step t m seen next) (cell : CellInvariant p trace m)
    (scope : (m.group.provider p).scope = .global host)
    (accepts : ∀ reason, host ≠ .refusing reason) (claims : (m.threads t).claims p) :
    (next.threads t).claims p ∨ seen.registers p = true ∨
      (m.group.provider p).hook.isSome = true ∨ (m.group.provider p).finished = true := by
  cases step
  case succeed here owned =>
    obtain rfl := (here ▸ claims : Point.claims p _)
    simp [scope] at owned
  case keepNone here needless =>
    obtain rfl := (here ▸ claims : Point.claims p _)
    exact Or.inr (Or.inr (by simpa using needless))
  case register here accepted =>
    obtain rfl := (here ▸ claims : Point.claims p _)
    exact Or.inr (Or.inl (by simp [Seen.registers]))
  case refuse here refused =>
    obtain rfl := (here ▸ claims : Point.claims p _)
    obtain ⟨rfl, -⟩ := ProviderGroup.registerHook_error refused
    obtain ⟨-, -, global, -⟩ := (here ▸ cell.known t) rfl
    rw [scope] at global
    exact absurd (Scope.global.inj global) (accepts _)
  all_goals simp_all [Point.claims]

/-- A commissioned provider has somebody who sees to its exit hook, or it had one, or it is
finished. -/
def Covered (p : Nat) (trace : List (Seen ε π)) (m : Machine σ ε π) : Prop :=
  (∃ t, (m.threads t).claims p) ∨ trace.countP (Seen.registers p) = 1 ∨
    (m.group.provider p).finished = true

theorem Step.covered (step : Step t m seen next) (known : p < m.group.providers.length)
    (cell : CellInvariant p trace m)
    (once : (trace ++ [seen]).countP (Seen.registers p) ≤ 1)
    (scope : (m.group.provider p).scope = .global host)
    (accepts : ∀ reason, host ≠ .refusing reason) (covered : Covered p trace m) :
    Covered p (trace ++ [seen]) next := by
  rw [List.countP_append] at once
  have registered (before : trace.countP (Seen.registers p) = 1) :
      Covered p (trace ++ [seen]) next := by
    refine Or.inr (Or.inl ?_)
    rw [List.countP_append]
    omega
  -- Only the mover can stop seeing to the hook, and a hook in the slot was registered.
  rcases covered with ⟨u, claims⟩ | before | set
  · by_cases mover : u = t
    · subst mover
      rcases step.claims_cases cell scope accepts claims with still | registers | hooked | set
      · exact Or.inl ⟨u, still⟩
      · refine Or.inr (Or.inl ?_)
        have counted : [seen].countP (Seen.registers p) = 1 := by simp [registers]
        rw [List.countP_append]
        omega
      · obtain ⟨id, hook⟩ := Option.isSome_iff_exists.mp hooked
        have counted : 0 < trace.countP (Seen.registers p) :=
          List.countP_pos_iff.mpr ⟨_, cell.noted id hook, by simp [Seen.registers]⟩
        exact registered (by omega)
      · exact Or.inr (Or.inr (step.stays_finished known set))
    · exact Or.inl ⟨u, by rwa [step.threads_of_ne mover]⟩
  · exact registered before
  · exact Or.inr (Or.inr (step.stays_finished known set))

end

section
variable {world : σ} {chains : List (List (Stage σ ε π) × Scope)} {trace : List (Seen ε π)}
  {m : Machine σ ε π} {p : Nat} {host : HookHost}

theorem Run.covered (run : Run (.atRest (.ofChains world chains)) trace m)
    (known : p < chains.length) (scope : chains[p].2 = .global host)
    (accepts : ∀ reason, host ≠ .refusing reason) {product : Option π} {calls : List StageCall}
    (commissioned : .commissioned p (.ok product) calls ∈ trace) : Covered p trace m := by
  induction run with
  | refl => simp at commissioned
  | @step m next trace seen t before step ih =>
    have here : p < m.group.providers.length := by rwa [before.length]
    rcases List.mem_append.mp commissioned with earlier | latest
    · -- It was commissioned before this step.
      have once := ((before.step step).cellInvariant known).counts (before.step step).guarded
      exact step.covered here (before.cellInvariant known) once.2
        (by rw [before.scope known, scope]) accepts (ih earlier)
    · -- This step commissions it, and its thread goes on to the hook.
      obtain rfl := List.mem_singleton.mp latest
      rcases step.lifecycle_cases here with ⟨same, -, there, -⟩ | ⟨_, same, -⟩ | ⟨other, -⟩
      · simp only [Seen.commissioned.injEq] at same
        refine Or.inl ⟨t, ?_⟩
        rw [there, ← same.2.1]
        rfl
      · simp at same
      · simp [Seen.commissions] at other

theorem Run.commissioned_of_registered (run : Run (.atRest (.ofChains world chains)) trace m)
    (known : p < chains.length) (registered : 0 < trace.countP (Seen.registers p)) :
    ∃ product calls, .commissioned p (.ok product) calls ∈ trace := by
  obtain ⟨seen, member, registers⟩ := List.countP_pos_iff.mp registered
  obtain ⟨before, after, rfl⟩ := List.mem_iff_append.mp member
  obtain ⟨t, middle, next, start, step, -⟩ := run.split
  obtain ⟨host, product, id, -, here, -⟩ := step.registering_of_registers registers
  obtain ⟨-, -, -, calls, commissioned⟩ := (here ▸ (start.cellInvariant known).known t) rfl
  exact ⟨product, calls, by simp [commissioned]⟩

/-- While nobody is calling, a hook is pending exactly if the provider was commissioned and is not
finished. -/
theorem Run.pending_iff (run : Run (.atRest (.ofChains world chains)) trace m)
    (known : p < chains.length) (scope : chains[p].2 = .global host)
    (accepts : ∀ reason, host ≠ .refusing reason) (quiet : m.Quiescent) :
    (m.group.registry host).hooksOf p ≠ [] ↔
      (∃ product calls, .commissioned p (.ok product) calls ∈ trace) ∧
        (m.group.provider p).finished = false := by
  constructor
  · intro pending
    cases run.hookPhase known scope accepts with
    | before _ absent | after _ absent => exact absurd (absent host) pending
    | pending id once _ _ _ clear =>
      exact ⟨run.commissioned_of_registered known (by omega), clear⟩
    | dropping t _ _ _ here => simp [quiet t] at here
  · rintro ⟨⟨product, calls, commissioned⟩, clear⟩
    have registered : trace.countP (Seen.registers p) = 1 := by
      rcases run.covered known scope accepts commissioned with ⟨t, claims⟩ | registered | set
      · simp [quiet t, Point.claims] at claims
      · exact registered
      · simp [set] at clear
    cases run.hookPhase known scope accepts with
    | before unregistered => omega
    | pending _ _ _ _ pends | dropping _ _ _ _ _ pends => simp [pends.only]
    | after _ _ coming =>
      rcases coming with set | ⟨t, bound⟩
      · simp [set] at clear
      · simp [quiet t, Point.bound] at bound

/-! ### Firing -/

theorem ProviderGroup.registry_teardownAtExit (q : Nat) (g : ProviderGroup σ ε π)
    (other : HookHost) : (teardownAtExitWith record q g).registry other = g.registry other := by
  have torn : (teardownWith record q g).2.registry other = g.registry other := by
    cases flag : (g.provider q).finished with
    | true => rw [teardownWith_set record flag]
    | false => simp [teardownWith_clear record flag]
  cases result : teardownWith record q g with
  | mk outcome after =>
    rw [result] at torn
    cases outcome <;> simpa [teardownAtExitWith, result] using torn

/-- A firing leaves no hook in its registry. -/
theorem ProviderGroup.hooksOf_fire {g : ProviderGroup σ ε π} (quiet : g.Unreactive) :
    ((g.fire host).2.registry host).hooksOf p = [] := by
  have kept (hooks : List Nat) (g : ProviderGroup σ ε π) :
      (hooks.foldl (fun g q => teardownAtExitWith record q g) g).registry host =
        g.registry host := by
    induction hooks generalizing g with
    | nil => rfl
    | cons q left ih => rw [List.foldl_cons, ih, registry_teardownAtExit]
  simp [fire, quiet.emitFrom, fireWith, kept, registry_drainHooks]

theorem Run.unreactive (run : Run (.atRest (.ofChains world chains)) trace m) :
    m.group.Unreactive := by
  intro q
  induction run with
  | refl => simp [Machine.atRest]
  | step _ step ih => rw [step.reactions, ih]

/-- While nobody is calling, a provider without a pending hook has no stage committed. -/
theorem Run.uncommitted (run : Run (.atRest (.ofChains world chains)) trace m)
    (known : p < chains.length) (scope : chains[p].2 = .global host)
    (accepts : ∀ reason, host ≠ .refusing reason) (quiet : m.Quiescent)
    (absent : (m.group.registry host).hooksOf p = []) :
    (m.group.provider p).lifecycle.committed = [] := by
  have stages := run.stagesInvariant known
  cases flag : (m.group.provider p).finished with
  | true =>
    have swept := (run.teardownPhase known).swept_of_quiescent flag quiet
    exact stages.swept (by omega)
  | false =>
    refine stages.unacquired fun product calls commissioned => ?_
    have pending := (run.pending_iff known scope accepts quiet).mpr
    exact pending ⟨⟨product, calls, commissioned⟩, flag⟩ absent

/-- The safety net of a global provider whose host takes hooks: it registers at most one hook in a
run, and never has two pending. While nobody is calling, one is pending exactly if the provider was
commissioned and is not finished, and firing the hooks of the host leaves no stage committed. -/
theorem Run.safetyNet (run : Run (.atRest (.ofChains world chains)) trace m)
    (known : p < chains.length) (scope : chains[p].2 = .global host)
    (accepts : ∀ reason, host ≠ .refusing reason) :
    trace.countP (Seen.registers p) ≤ 1 ∧ ((m.group.registry host).hooksOf p).length ≤ 1 ∧
    (m.Quiescent →
      ((m.group.registry host).hooksOf p ≠ [] ↔
        (∃ product calls, .commissioned p (.ok product) calls ∈ trace) ∧
          (m.group.provider p).finished = false) ∧
      ((m.group.fire host).2.provider p).lifecycle.committed = []) := by
  refine ⟨((run.cellInvariant known).counts run.guarded).2, ?_, fun quiet => ⟨?_, ?_⟩⟩
  · cases run.hookPhase known scope accepts with
    | before _ absent | after _ absent => simp [absent host]
    | pending _ _ _ _ pends | dropping _ _ _ _ _ pends => simp [pends.only]
  · exact run.pending_iff known scope accepts quiet
  · -- The firing is one more run, after which no hook is pending.
    have free := run.guarded.free_of_quiescent quiet
    obtain ⟨later, fired⟩ := ProviderGroup.fire_alone run.unreactive host (quiet 0) free
    exact (run.trans fired).uncommitted known scope accepts quiet
      (ProviderGroup.hooksOf_fire run.unreactive)

end

/-- A finish of a global provider is only noted, whatever it comes between: the provider has its
hook in the end, and firing releases its stage. -/
theorem safetyNet_of_deferred_finish :
    let keep : Stage Unit Unit Nat :=
      { name := "keep"
        commission := fun _ s => (.ok 1, s)
        decommission := fun _ s => (.ok (), s) }
    let chains := [([keep], Scope.global .manual)]
    ∃ trace m, Run (.atRest (.ofChains () chains)) trace m ∧ 0 < chains.length ∧
      chains[0].2 = .global .manual ∧ (∀ reason, HookHost.manual ≠ .refusing reason) ∧
      m.Quiescent ∧ (m.group.provider 0).lifecycle.indices = [0] ∧
      (m.group.registry .manual).hooksOf 0 = [⟨1⟩] ∧
      ((m.group.fire .manual).2.provider 0).lifecycle.committed = [] := by
  intro keep chains
  have called : Run (.atRest (.ofChains () chains)) _ _ :=
    Run.refl.step (.callProvide (t := 0) (p := 0) rfl (by decide))
  have entered := (called.step (.pass (t := 0) rfl rfl)).step (.enter (t := 0) rfl rfl rfl)
  have looked := (entered.step (.lock (t := 0) rfl rfl)).step (.begin (t := 0) rfl rfl)
  have commissioned := looked.step (.commission (t := 0) rfl)
  have finishing := commissioned.step (.callDefer (t := 1) (p := 0) rfl (by decide) rfl)
  have claiming := finishing.step (.succeedGlobal (t := 0) rfl rfl)
  have keeping := (claiming.step (.claim (t := 0) rfl rfl)).step (.keep (t := 0) rfl rfl)
  have deferred := keeping.step (.defer (t := 1) rfl)
  have registered := deferred.step (.register (t := 0) rfl rfl)
  have noted := registered.step (.note (t := 0) rfl)
  have provided := (noted.step (.leave (t := 0) rfl)).step (.answer (t := 0) rfl)
  refine ⟨_, _, provided, by decide, rfl, by simp, ?_, rfl, rfl,
    ((provided.safetyNet (by decide) rfl (by simp)).2.2 ?_).2⟩
  all_goals
    intro t
    rcases t with _ | _ | t <;> rfl

end ContainerFixture
