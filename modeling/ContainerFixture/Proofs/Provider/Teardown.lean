import ContainerFixture.Proofs.Provider.Effects

/-!
# Tearing down once

A provider is torn down at most once in a run. The flag of a provider is set by one thread only,
which sweeps later: `TeardownPhase` says how far that thread is, and every step preserves it.
-/

namespace ContainerFixture

variable {σ ε π : Type}

/-- How far the teardown of a provider is: nobody has set the flag, the thread that did has yet to
sweep, or it has swept. -/
inductive TeardownPhase (p : Nat) (trace : List (Seen ε π)) (m : Machine σ ε π) : Prop where
  | before (clear : (m.group.provider p).finished = false) (unflagged : .flagged p ∉ trace)
      (unswept : trace.countP (Seen.decommissions p) = 0)
      (nobody : ∀ t, (m.threads t).tearing p = false)
  | during (t : Nat) (set : (m.group.provider p).finished = true) (flagged : .flagged p ∈ trace)
      (unswept : trace.countP (Seen.decommissions p) = 0)
      (only : ∀ u, (m.threads u).tearing p = true ↔ u = t)
  | after (set : (m.group.provider p).finished = true) (flagged : .flagged p ∈ trace)
      (swept : trace.countP (Seen.decommissions p) = 1)
      (nobody : ∀ t, (m.threads t).tearing p = false)

namespace TeardownPhase

variable {p : Nat} {trace : List (Seen ε π)} {m : Machine σ ε π}

theorem finished_iff (phase : TeardownPhase p trace m) :
    (m.group.provider p).finished = true ↔ .flagged p ∈ trace := by
  cases phase with
  | before clear unflagged => simp [clear, unflagged]
  | during _ set flagged => simp [set, flagged]
  | after set flagged => simp [set, flagged]

theorem decommissions_le_one (phase : TeardownPhase p trace m) :
    trace.countP (Seen.decommissions p) ≤ 1 := by
  cases phase with
  | before _ _ unswept | during _ _ _ unswept => omega
  | after _ _ swept => omega

theorem unswept_of_clear (phase : TeardownPhase p trace m)
    (clear : (m.group.provider p).finished = false) :
    trace.countP (Seen.decommissions p) = 0 := by
  cases phase with
  | before _ _ unswept => exact unswept
  | during _ set | after set => simp [set] at clear

/-- Once nobody is on the way to sweep, a finished provider has been swept. -/
theorem swept_of_quiescent (phase : TeardownPhase p trace m)
    (set : (m.group.provider p).finished = true) (quiet : m.Quiescent) :
    trace.countP (Seen.decommissions p) = 1 := by
  cases phase with
  | before clear => simp [set] at clear
  | during t _ _ _ only =>
    have busy := (only t).mpr rfl
    simp [quiet t, Point.tearing] at busy
  | after _ _ swept => exact swept

end TeardownPhase

theorem Step.teardownPhase {p t : Nat} {trace : List (Seen ε π)} {seen : Seen ε π}
    {m next : Machine σ ε π} (step : Step t m seen next) (known : p < m.group.providers.length)
    (phase : TeardownPhase p trace m) : TeardownPhase p (trace ++ [seen]) next := by
  rcases step.teardown_cases known with ⟨asker, rfl, here, there, clear, set⟩ |
    ⟨asker, outcome, calls, rfl, here, there, kept⟩ | ⟨other, quiet, same, kept⟩
  · -- The flag is set: it was clear, so nobody else is on the way to sweep.
    cases phase with
    | during _ set' | after set' => simp [clear] at set'
    | before _ _ unswept nobody =>
      refine .during t set (by simp) (by simp [unswept, Seen.decommissions]) fun u => ?_
      by_cases mover : u = t
      · subst mover
        simp [there, Point.tearing]
      · simp [step.threads_of_ne mover, nobody u, mover]
  · -- The sweep: whoever makes it is the one that set the flag.
    cases phase with
    | before _ _ _ nobody | after _ _ _ nobody =>
      have busy := nobody t
      simp [here, Point.tearing] at busy
    | during s set flagged unswept only =>
      obtain rfl : t = s := (only t).mp (by simp [here, Point.tearing])
      refine .after (kept.trans set) (by simp [flagged]) (by simp [unswept, Seen.decommissions]) ?_
      apply step.forall_threads (fun point => point.tearing p = false)
        (by simp [there, Point.tearing])
      exact fun u mover => Bool.eq_false_iff.mpr fun busy => mover ((only u).mp busy)
  · have standing (u : Nat) : (next.threads u).tearing p = (m.threads u).tearing p := by
      by_cases mover : u = t
      · subst mover
        exact same
      · rw [step.threads_of_ne mover]
    cases phase with
    | before clear unflagged unswept nobody =>
      exact .before (kept.trans clear) (by simp [unflagged, Ne.symm other])
        (by simp [unswept, quiet]) fun u => (standing u).trans (nobody u)
    | during s set flagged unswept only =>
      exact .during s (kept.trans set) (by simp [flagged]) (by simp [unswept, quiet])
        fun u => by rw [standing u, only u]
    | after set flagged swept nobody =>
      exact .after (kept.trans set) (by simp [flagged]) (by simp [swept, quiet])
        fun u => (standing u).trans (nobody u)

theorem Step.finished_kept {p t : Nat} {seen : Seen ε π} {m next : Machine σ ε π}
    (step : Step t m seen next) (known : p < m.group.providers.length)
    (unflagged : seen ≠ .flagged p) :
    (next.group.provider p).finished = (m.group.provider p).finished := by
  rcases step.teardown_cases known with ⟨_, rfl, -⟩ | ⟨_, _, _, -, -, -, kept⟩ | ⟨-, -, -, kept⟩
  · exact absurd rfl unflagged
  · exact kept
  · exact kept

theorem Step.stays_finished {p t : Nat} {seen : Seen ε π} {m next : Machine σ ε π}
    (step : Step t m seen next) (known : p < m.group.providers.length)
    (set : (m.group.provider p).finished = true) : (next.group.provider p).finished = true := by
  rcases step.teardown_cases known with ⟨_, -, -, -, -, done⟩ | ⟨_, _, _, -, -, -, kept⟩ |
    ⟨-, -, -, kept⟩
  · exact done
  · rw [kept, set]
  · rw [kept, set]

theorem Run.stays_finished {p : Nat} {trace : List (Seen ε π)} {m next : Machine σ ε π}
    (run : Run m trace next) (known : p < m.group.providers.length)
    (set : (m.group.provider p).finished = true) : (next.group.provider p).finished = true := by
  have later : p < next.group.providers.length ∧ (next.group.provider p).finished = true := by
    induction run with
    | refl => exact ⟨known, set⟩
    | step _ step ih => exact ⟨step.length ▸ ih.1, step.stays_finished ih.1 ih.2⟩
  exact later.2

section
variable {world : σ} {chains : List (List (Stage σ ε π) × Scope)} {trace : List (Seen ε π)}
  {m : Machine σ ε π} {p : Nat}

theorem Run.length (run : Run (.atRest (.ofChains world chains)) trace m) :
    m.group.providers.length = chains.length := by
  induction run with
  | refl => simp [Machine.atRest]
  | step _ step ih => rw [step.length, ih]

theorem Run.scope (run : Run (.atRest (.ofChains world chains)) trace m)
    (known : p < chains.length) : (m.group.provider p).scope = chains[p].2 := by
  induction run with
  | refl => simp [Machine.atRest, ProviderGroup.provider_ofChains world known]
  | step _ step ih => rw [step.scope, ih]

theorem Run.teardownPhase (run : Run (.atRest (.ofChains world chains)) trace m)
    (known : p < chains.length) : TeardownPhase p trace m := by
  induction run with
  | refl =>
    refine .before ?_ (by simp) (by simp) fun t => rfl
    simp [Machine.atRest, ProviderGroup.provider_ofChains world known]
  | step before step ih => exact step.teardownPhase (by rwa [before.length]) ih

end

end ContainerFixture
