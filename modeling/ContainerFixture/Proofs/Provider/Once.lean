import ContainerFixture.Proofs.Provider.Stages

/-!
# Providing once and finishing once

Main result: `Run.computedOnce`. In any interleaving of calls, a provider is commissioned at most
once and decommissioned at most once, and the calls that provide share one provision, but for those
that find the provider finished at their first look.

The events that a statement puts in order are found in the trace by `Run.split`, which gives the
machine at the time of the event, where the invariants of the run so far hold.
-/

namespace ContainerFixture

variable {σ ε π : Type}

/-- Providing once and finishing once, read off the trace of a run. -/
structure ComputedOnce (p : Nat) (trace : List (Seen ε π)) : Prop where
  commissioned_once : trace.countP (Seen.commissions p) ≤ 1
  decommissioned_once : trace.countP (Seen.decommissions p) ≤ 1
  -- The calls that got past their first look at the flag return one and the same provision.
  one_provision : ∀ first second, .provided p first ∈ trace → .provided p second ∈ trace →
    first = second
  -- A call that was turned away found the flag set before, and its failure is its own.
  turned_away : ∀ before provision after, trace = before ++ .turnedAway p provision :: after →
    provision.outcome = .error .alreadyFinished ∧ .flagged p ∈ before ∧
      ∀ shared, .provided p shared ∈ trace → provision.sharesOutcomeWith shared = false
  -- The shared failure says that the provider is finished only if the flag was set before the
  -- thread inside the cell looked at it.
  given_up : ∀ before provision after, trace = before ++ .provided p provision :: after →
    provision.outcome = .error .alreadyFinished →
      ∃ earlier between, before = earlier ++ .abandoned p provision :: between ∧
        .flagged p ∈ earlier
  -- No call is answered that the lifecycle is commissioned already.
  in_time : ∀ provision, .provided p provision ∈ trace ∨ .turnedAway p provision ∈ trace →
    provision.outcome ≠ .error .alreadyCommissioned

/-! ### The events in order -/

section
variable {t p : Nat} {m next : Machine σ ε π} {provision : Provision ε π}

theorem Step.finished_of_turnedAway (step : Step t m (.turnedAway p provision) next) :
    (m.group.provider p).finished = true ∧ provision.outcome = .error .alreadyFinished := by
  cases step with
  | turnAway here set => exact ⟨set, rfl⟩

theorem Step.finished_of_abandoned (step : Step t m (.abandoned p provision) next) :
    (m.group.provider p).finished = true ∧ provision.outcome = .error .alreadyFinished := by
  cases step with
  | abandon here set => exact ⟨set, rfl⟩

end

section
variable {world : σ} {chains : List (List (Stage σ ε π) × Scope)} {trace : List (Seen ε π)}
  {m : Machine σ ε π} {p : Nat} {provision : Provision ε π}

theorem Run.flagged_of_abandoned (run : Run (.atRest (.ofChains world chains)) trace m)
    (known : p < chains.length) {before after : List (Seen ε π)}
    (shown : trace = before ++ .abandoned p provision :: after) :
    .flagged p ∈ before ∧ provision.outcome = .error .alreadyFinished := by
  subst shown
  obtain ⟨t, middle, next, start, step, -⟩ := run.split
  obtain ⟨set, failed⟩ := step.finished_of_abandoned
  exact ⟨(start.teardownPhase known).finished_iff.mp set, failed⟩

theorem Run.flagged_of_turnedAway (run : Run (.atRest (.ofChains world chains)) trace m)
    (known : p < chains.length) {before after : List (Seen ε π)}
    (shown : trace = before ++ .turnedAway p provision :: after) :
    .flagged p ∈ before ∧ provision.outcome = .error .alreadyFinished := by
  subst shown
  obtain ⟨t, middle, next, start, step, -⟩ := run.split
  obtain ⟨set, failed⟩ := step.finished_of_turnedAway
  exact ⟨(start.teardownPhase known).finished_iff.mp set, failed⟩

/-- What the calls that got past their first look return was settled before the first of them. -/
theorem Run.settled_of_provided (run : Run (.atRest (.ofChains world chains)) trace m)
    (known : p < chains.length) {before after : List (Seen ε π)}
    (shown : trace = before ++ .provided p provision :: after) :
    ∃ middle, Run (.atRest (.ofChains world chains)) before middle ∧
      Settled p before middle provision := by
  subst shown
  obtain ⟨t, middle, next, start, step, -⟩ := run.split
  have cell := start.cellInvariant known
  have full := (step.answering_of_provided ▸ cell.known t) rfl
  obtain ⟨-, -, settled⟩ := cell.filled provision full
  exact ⟨middle, start, settled⟩

/-! ### Main result -/

/-- Computing once and finishing once: whatever calls are made to a provider and however they
interleave. -/
theorem Run.computedOnce (run : Run (.atRest (.ofChains world chains)) trace m)
    (known : p < chains.length) : ComputedOnce p trace := by
  have cell := run.cellInvariant known
  have stages := run.stagesInvariant known
  refine
    { commissioned_once := (cell.counts run.guarded).1
      decommissioned_once := (run.teardownPhase known).decommissions_le_one
      one_provision := fun first second one other => ?_
      turned_away := fun before provision after shown => ?_
      given_up := fun before provision after shown failed => ?_
      in_time := fun provision shown => ?_ }
  · -- Both are what the cell holds.
    have full := cell.returned first one
    exact Option.some.inj (full.symm.trans (cell.returned second other))
  · -- The serial of a failure of one's own is given to no other provision.
    obtain ⟨flagged, failed⟩ := run.flagged_of_turnedAway known shown
    refine ⟨failed, flagged, fun shared given => ?_⟩
    obtain ⟨-, -, settled⟩ := cell.filled shared (cell.returned shared given)
    have apart := settled.unshared provision (by simp [shown])
    simpa [Provision.sharesOutcomeWith] using apart
  · -- Neither a commission nor a refused hook says that the provider is finished.
    obtain ⟨middle, start, settled⟩ := run.settled_of_provided known shown
    rcases settled.origin with ⟨calls, commissioned⟩ | abandoned | ⟨reason, -, refused⟩
    · obtain ⟨placed, acquired⟩ := (start.stagesInvariant known).acquired _ calls commissioned
      exact absurd failed acquired.in_time.2
    · obtain ⟨earlier, between, rfl⟩ := List.mem_iff_append.mp abandoned
      exact ⟨earlier, between, rfl, (start.flagged_of_abandoned known rfl).1⟩
    · simp [refused] at failed
  · rcases shown with given | turned
    · obtain ⟨-, -, settled⟩ := cell.filled provision (cell.returned provision given)
      rcases settled.origin with ⟨calls, commissioned⟩ | abandoned | ⟨reason, -, refused⟩
      · obtain ⟨placed, acquired⟩ := stages.acquired _ calls commissioned
        exact acquired.in_time.1
      · obtain ⟨earlier, between, shown⟩ := List.mem_iff_append.mp abandoned
        simp [(run.flagged_of_abandoned known shown).2]
      · simp [refused]
    · obtain ⟨earlier, between, shown⟩ := List.mem_iff_append.mp turned
      simp [(run.flagged_of_turnedAway known shown).2]

end

/-- A finish overtakes two provides between their looks at the flag, and a third comes too late. The
first two share a failure, and the third has one of its own. -/
theorem computedOnce_of_early_finish :
    let chains : List (List (Stage Unit Unit Unit) × Scope) := [([], .owned)]
    ∃ trace m, Run (.atRest (.ofChains () chains)) trace m ∧ 0 < chains.length ∧
      trace.countP (Seen.decommissions 0) = 1 ∧
      .provided 0 ⟨0, .error .alreadyFinished⟩ ∈ trace ∧
      .turnedAway 0 ⟨1, .error .alreadyFinished⟩ ∈ trace ∧ ComputedOnce 0 trace := by
  intro chains
  have called : Run (.atRest (.ofChains () chains)) _ _ :=
    Run.refl.step (.callProvide (t := 0) (p := 0) rfl (by decide))
  have entered := (called.step (.pass (t := 0) rfl rfl)).step (.enter (t := 0) rfl rfl rfl)
  have joined := entered.step (.callProvide (t := 1) (p := 0) rfl (by decide))
  have waiting := joined.step (.pass (t := 1) rfl rfl)
  have finishing := waiting.step (.callFinishNow (t := 2) (p := 0) rfl (by decide))
  have emptied := (finishing.step (.seize (t := 2) rfl rfl)).step (.withdraw (t := 2) rfl)
  have flagged := (emptied.step (.drop (t := 2) rfl)).step (.flag (t := 2) rfl rfl)
  have abandoned := (flagged.step (.lock (t := 0) rfl rfl)).step (.abandon (t := 0) rfl rfl)
  have filled := (abandoned.step (.leave (t := 0) rfl)).step (.share (t := 1) rfl rfl)
  have answered := (filled.step (.answer (t := 1) rfl)).step (.answer (t := 0) rfl)
  have swept := (answered.step (.lockDown (t := 2) rfl rfl)).step (.sweep (t := 2) rfl)
  have late := swept.step (.callProvide (t := 3) (p := 0) rfl (by decide))
  have turned := late.step (.turnAway (t := 3) rfl rfl)
  exact ⟨_, _, turned, by decide, rfl, List.mem_of_getElem? (i := 14) rfl,
    List.mem_of_getElem? (i := 19) rfl, turned.computedOnce (by decide)⟩

end ContainerFixture
