import ContainerFixture.Proofs.Provider.Stages

/-!
# A commission that races with a finish

Main result: `Run.noLeak`. Once a provider was swept no stage of it is committed, in whatever way
the run goes on, and a finished provider that nobody is calling has released what it acquired.

The second look at the flag carries the proof. It is made with the lifecycle held, so that a
commission that passes it comes before the sweep of whoever sets the flag later.
-/

namespace ContainerFixture

variable {σ ε π : Type}

/-- No stage of a provider is committed, and each that was acquired has been released once. -/
structure Released (p : Nat) (trace : List (Seen ε π)) (m : Machine σ ε π) : Prop where
  uncommitted : (m.group.provider p).lifecycle.committed = []
  -- The releases undo the acquisitions, newest first.
  nested : Nested (stageCalls p trace) []
  acquired_once : ∀ place, (stageCalls p trace).count (.commission place true) ≤ 1
  released : ∀ place, (stageCalls p trace).countP (StageCall.releases place) =
    (stageCalls p trace).count (.commission place true)

theorem Seen.stageCalls_eq_nil {p : Nat} {seen : Seen ε π}
    (uncommissioned : seen.commissions p = false) (unswept : seen.decommissions p = false) :
    seen.stageCalls p = [] := by
  cases seen <;> simp_all [stageCalls, commissions, decommissions]

section
variable {world : σ} {chains : List (List (Stage σ ε π) × Scope)} {trace : List (Seen ε π)}
  {m : Machine σ ε π} {p : Nat}

/-- After a sweep the provider is not commissioned any more. -/
theorem Run.uncommissioned_of_swept (run : Run (.atRest (.ofChains world chains)) trace m)
    (known : p < chains.length) (swept : 0 < trace.countP (Seen.decommissions p))
    {later : List (Seen ε π)} {last : Machine σ ε π} (after : Run m later last) :
    ∀ seen ∈ later, seen.commissions p = false := by
  intro seen shown
  obtain ⟨before, rest, rfl⟩ := List.mem_iff_append.mp shown
  -- A thread about to commission knows that there was no sweep up to then.
  have whole := run.trans after
  rw [← List.append_assoc] at whole
  obtain ⟨t, middle, next, start, step, -⟩ := whole.split
  refine Bool.eq_false_iff.mpr fun commissions => ?_
  have here := step.commissioning_of_commissions commissions
  have unswept := ((start.cellInvariant known).commissionable here).2
  rw [List.countP_append] at unswept
  omega

/-- After a sweep no stage of the provider is called any more. -/
theorem Run.stageCalls_of_swept (run : Run (.atRest (.ofChains world chains)) trace m)
    (known : p < chains.length) (swept : 0 < trace.countP (Seen.decommissions p))
    {later : List (Seen ε π)} {last : Machine σ ε π} (after : Run m later last) :
    stageCalls p later = [] := by
  have once := ((run.trans after).teardownPhase known).decommissions_le_one
  rw [List.countP_append] at once
  have unswept : later.countP (Seen.decommissions p) = 0 := by omega
  apply List.flatMap_eq_nil_iff.mpr
  intro seen shown
  refine Seen.stageCalls_eq_nil (run.uncommissioned_of_swept known swept after seen shown) ?_
  exact Bool.eq_false_iff.mpr (List.countP_eq_zero.mp unswept seen shown)

/-- A commission that races with a finish never leaks. Once the provider was swept, none of its
stages is committed or called however the run goes on; and once it is finished and all calls have
returned, each stage that was acquired has been released exactly once. -/
theorem Run.noLeak (run : Run (.atRest (.ofChains world chains)) trace m)
    (known : p < chains.length) :
    (0 < trace.countP (Seen.decommissions p) → ∀ later last, Run m later last →
      (last.group.provider p).lifecycle.committed = [] ∧ stageCalls p later = []) ∧
    ((m.group.provider p).finished = true → m.Quiescent → Released p trace m) := by
  refine ⟨fun swept later last after => ⟨?_, ?_⟩, fun set quiet => ?_⟩
  · have more : 0 < (trace ++ later).countP (Seen.decommissions p) := by
      rw [List.countP_append]
      omega
    exact ((run.trans after).stagesInvariant known).swept more
  · exact run.stageCalls_of_swept known swept after
  · -- Whoever set the flag has swept by now, and the calls so far leave no bracket open.
    have stages := run.stagesInvariant known
    have swept := (run.teardownPhase known).swept_of_quiescent set quiet
    have free := stages.swept (by omega)
    have nested := stages.nested
    rw [(Lifecycle.committed_eq_nil_iff _).mp free] at nested
    refine ⟨free, nested, fun place => ?_, fun place => ?_⟩
    · exact Nat.le_trans (stages.once place) ((run.cellInvariant known).counts run.guarded).1
    · simpa using (nested.count_commission place).symm

end

/-- The flag is set after the second look of a provide at it, before its commission: what is
acquired then is released, though one release fails. -/
theorem noLeak_of_late_finish :
    let keep : Stage Unit Unit Nat :=
      { name := "keep"
        commission := fun _ s => (.ok 1, s)
        decommission := fun _ s => (.ok (), s) }
    let stuck : Stage Unit Unit Nat :=
      { name := "stuck"
        commission := fun _ s => (.ok 2, s)
        decommission := fun _ s => (.error (), s) }
    let chains := [([keep, stuck], Scope.owned)]
    ∃ trace m, Run (.atRest (.ofChains () chains)) trace m ∧ 0 < chains.length ∧
      (m.group.provider 0).finished = true ∧ m.Quiescent ∧
      stageCalls 0 trace = [.commission 0 true, .commission 1 true, .decommission 1 false,
        .decommission 0 true] ∧ Released 0 trace m := by
  intro keep stuck chains
  have called : Run (.atRest (.ofChains () chains)) _ _ :=
    Run.refl.step (.callProvide (t := 0) (p := 0) rfl (by decide))
  have entered := (called.step (.pass (t := 0) rfl rfl)).step (.enter (t := 0) rfl rfl rfl)
  have looked := (entered.step (.lock (t := 0) rfl rfl)).step (.begin (t := 0) rfl rfl)
  have finishing := looked.step (.callFinish (t := 1) (p := 0) rfl (by decide) rfl)
  have flagged := finishing.step (.flag (t := 1) rfl rfl)
  have commissioned := flagged.step (.commission (t := 0) rfl)
  have locked := commissioned.step (.lockDown (t := 1) rfl rfl)
  have settled := locked.step (.succeed (t := 0) rfl rfl)
  have swept := (settled.step (.sweep (t := 1) rfl)).step (.tell (t := 1) rfl)
  have provided := (swept.step (.leave (t := 0) rfl)).step (.answer (t := 0) rfl)
  have finished := provided.step (.finish (t := 1) rfl)
  refine ⟨_, _, finished, by decide, rfl, ?_, rfl, (finished.noLeak (by decide)).2 rfl ?_⟩
  all_goals
    intro t
    rcases t with _ | _ | t <;> rfl

end ContainerFixture
