import ContainerFixture.Proofs.Provider.Hooks

/-!
# The exit hook of a global provider

How far the exit hook of a global provider is, when its host takes hooks: `HookPhase`. It is
registered once, by the thread inside the cell, and only while the provider is not finished. It
leaves its registry when it is dropped or fired, and whoever does so is bound to finish the provider.
There is one lemma for each phase that a step can start in.
-/

namespace ContainerFixture

variable {σ ε π : Type}

section
variable {t : Nat} {m next : Machine σ ε π} {seen : Seen ε π} {p : Nat}

/-- How far the exit hook of a provider with this host is: not registered, pending, out of its slot
and about to be dropped, or gone, in which case the provider is finished or will be. -/
inductive HookPhase (host : HookHost) (p : Nat) (trace : List (Seen ε π)) (m : Machine σ ε π) :
    Prop where
  | before (unregistered : trace.countP (Seen.registers p) = 0)
      (absent : ∀ other, (m.group.registry other).hooksOf p = [])
      (nobody : ∀ t, ¬(m.threads t).fires p)
      (unfinished : ∀ t other product, m.threads t = .inside p (.registering other product) →
        (m.group.provider p).finished = false)
  | pending (id : HookId) (once : trace.countP (Seen.registers p) = 1)
      (registered : .registered p id ∈ trace) (noted : Noted p m) (pends : Pends host p id m)
      (clear : (m.group.provider p).finished = false) (nobody : ∀ t, ¬(m.threads t).fells p)
  | dropping (t : Nat) (id : HookId) (once : trace.countP (Seen.registers p) = 1)
      (registered : .registered p id ∈ trace) (here : m.threads t = .dropping p (some id))
      (pends : Pends host p id m)
  | after (once : trace.countP (Seen.registers p) = 1)
      (absent : ∀ other, (m.group.registry other).hooksOf p = [])
      (coming : (m.group.provider p).finished = true ∨ ∃ t, (m.threads t).bound p)

/-- Nobody has the exit hook of a provider in hand before it is registered. -/
theorem Step.unfired (step : Step t m seen next)
    (absent : ∀ other, (m.group.registry other).hooksOf p = [])
    (nobody : ∀ u, ¬(m.threads u).fires p) (u : Nat) : ¬(next.threads u).fires p := by
  refine step.forall_threads (fun point => ¬point.fires p) (fun fires => ?_)
    (fun u _ => nobody u) u
  rcases step.fires_cases fires with before | ⟨host, rfl⟩
  · exact nobody t before
  · obtain ⟨⟨ran, left, there, taken⟩, -⟩ := step.firing_of_drained (p := p)
    rw [there] at fires
    exact taken.mp fires (absent host)

theorem Step.clear_of_registering (step : Step t m seen next) {other : HookHost}
    {product : Option π} (there : next.threads t = .inside p (.registering other product)) :
    (next.group.provider p).finished = false := by
  cases step <;> simp at there
  case keep here needed =>
    obtain ⟨rfl, rfl, rfl⟩ := there
    simp_all

theorem Step.unregisters_of_registered {trace : List (Seen ε π)} (step : Step t m seen next)
    (cell : CellInvariant p trace m) (once : trace.countP (Seen.registers p) = 1) :
    seen.registers p = false := by
  refine Bool.eq_false_iff.mpr fun registers => ?_
  obtain ⟨host, product, id, -, here, -⟩ := step.registering_of_registers registers
  obtain ⟨-, unregistered, -⟩ := (here ▸ cell.known t) rfl
  omega

section
variable {trace : List (Seen ε π)} {host : HookHost} (step : Step t m seen next)
  (known : p < m.group.providers.length)
  (cells : ∀ q, q < m.group.providers.length → CellInvariant q trace m)
  (scope : (m.group.provider p).scope = .global host)
  (accepts : ∀ reason, host ≠ .refusing reason)
include step known cells scope accepts

/-- No one finishes a provider while its first hook is being registered. -/
theorem Step.unfinished (guarded : Guarded m) (nobody : ∀ u, ¬(m.threads u).fires p)
    (unfinished : ∀ u other product, m.threads u = .inside p (.registering other product) →
      (m.group.provider p).finished = false) (u : Nat) (other : HookHost) (product : Option π)
    (there : next.threads u = .inside p (.registering other product)) :
    (next.group.provider p).finished = false := by
  by_cases mover : u = t
  · subst mover
    exact step.clear_of_registering there
  · rw [step.threads_of_ne mover] at there
    rw [step.finished_kept known, unfinished u other product there]
    -- Whoever sets the flag holds the slot, but it is held there.
    rintro rfl
    obtain ⟨asker, here⟩ := step.flagging_of_flagged
    have slot := (cells p known).slot_of_fells scope accepts (by simp [here, Point.fells])
      (nobody t)
    exact mover (guarded.unique slot (by simp [there, Point.held, Provisioning.held]))

theorem Step.hookPhase_of_before (guarded : Guarded m)
    (unregistered : trace.countP (Seen.registers p) = 0)
    (absent : ∀ other, (m.group.registry other).hooksOf p = [])
    (nobody : ∀ u, ¬(m.threads u).fires p)
    (unfinished : ∀ u other product, m.threads u = .inside p (.registering other product) →
      (m.group.provider p).finished = false) : HookPhase host p (trace ++ [seen]) next := by
  have unfired := step.unfired absent nobody
  have clear := step.unfinished known cells scope accepts guarded nobody unfinished
  by_cases registers : seen.registers p = true
  · obtain ⟨other, product, id, rfl, here, there, rfl, registries⟩ :=
      step.registering_of_registers registers
    obtain ⟨-, -, global, -⟩ := (here ▸ (cells p known).known t) rfl
    obtain rfl : host = other := by simpa [scope] using global
    have first : Pends host p ((m.group.registry host).register p).1 next :=
      ⟨by simp [registries, absent], fun other foreign => by simp [registries, foreign, absent]⟩
    refine .pending _ (by simp [unregistered, registers]) (by simp)
      (Or.inr ⟨t, product, _, there⟩) first ?_ ?_
    · rw [step.finished_kept known (by simp), unfinished t host product here]
    · apply step.forall_threads (fun point => ¬point.fells p) (by simp [there, Point.fells])
      intro u mover fells
      have slot := (cells p known).slot_of_fells scope accepts fells (nobody u)
      exact mover (guarded.unique (by simp [here, Point.held, Provisioning.held]) slot)
  · have unregisters := Bool.eq_false_iff.mpr registers
    exact .before (by simp [unregistered, unregisters]) (step.hooksOf_eq_nil unregisters absent)
      unfired clear

theorem Step.hookPhase_of_pending (guarded : Guarded m) (numbered : Numbered trace m) {id : HookId}
    (once : trace.countP (Seen.registers p) = 1) (registered : .registered p id ∈ trace)
    (noted : Noted p m) (pends : Pends host p id m)
    (clear : (m.group.provider p).finished = false) (nobody : ∀ u, ¬(m.threads u).fells p) :
    HookPhase host p (trace ++ [seen]) next := by
  have cell := cells p known
  have unregisters : seen.registers p = false := step.unregisters_of_registered cell once
  have unflagged : seen ≠ .flagged p := by
    rintro rfl
    obtain ⟨asker, here⟩ := step.flagging_of_flagged
    exact nobody t (by simp [here, Point.fells])
  have undropped : ∀ taken, m.threads t ≠ .dropping p taken := fun taken here =>
    nobody t (by simp [here, Point.fells])
  have count : (trace ++ [seen]).countP (Seen.registers p) = 1 := by simp [once, unregisters]
  rcases step.pends_cases cells numbered scope registered unregisters pends undropped with
    kept | ⟨rfl, absent⟩
  · by_cases here : m.threads t = .withdrawing p
    · exact .dropping t id count (by simp [registered])
        (step.dropping_of_withdrawing guarded cell once registered noted here) kept
    · refine .pending id count (by simp [registered]) (step.noted known noted here) kept
        ((step.finished_kept known unflagged).trans clear) ?_
      refine step.forall_threads (fun point => ¬point.fells p) (fun fells => ?_) fun u _ => nobody u
      rcases step.fells_cases cell scope accepts fells with before | seized | ⟨other, rfl⟩
      · exact nobody t before
      · exact here seized
      · -- It is not this host that is drained, since the hook is still pending.
        obtain ⟨⟨ran, left, there, taken⟩, emptied⟩ := step.firing_of_drained (p := p)
        rw [there] at fells
        have foreign : other ≠ host := by
          rintro rfl
          have one := kept.only
          simp [emptied] at one
        exact taken.mp fells (pends.elsewhere other foreign)
  · -- The registry is drained, and the mover has the hook in hand.
    obtain ⟨⟨ran, left, there, taken⟩, -⟩ := step.firing_of_drained (p := p)
    refine .after count absent (Or.inr ⟨t, ?_⟩)
    rw [there]
    exact taken.mpr (by simp [pends.only])

omit accepts in
theorem Step.hookPhase_of_dropping (guarded : Guarded m) (numbered : Numbered trace m) {id : HookId}
    {u : Nat} (once : trace.countP (Seen.registers p) = 1) (registered : .registered p id ∈ trace)
    (here : m.threads u = .dropping p (some id)) (pends : Pends host p id m) :
    HookPhase host p (trace ++ [seen]) next := by
  have unregisters : seen.registers p = false :=
    step.unregisters_of_registered (cells p known) once
  have count : (trace ++ [seen]).countP (Seen.registers p) = 1 := by simp [once, unregisters]
  by_cases mover : u = t
  · -- The hook is dropped, by the thread that goes on to tear the provider down.
    subst mover
    obtain ⟨there, after⟩ := step.dropped_of_dropping here
    refine .after count (fun other => ?_) (Or.inr ⟨u, by simp [there, Point.bound]⟩)
    rw [after, ProviderGroup.registry_dropHook]
    by_cases foreign : other = host
    · simp [foreign, scope, pends.only]
    · simp [scope, Ne.symm foreign, pends.elsewhere other foreign]
  · have there := (step.threads_of_ne mover).trans here
    have slot : .slot p ∈ (m.threads u).held := by simp [here, Point.held]
    have undropped : ∀ taken, m.threads t ≠ .dropping p taken := fun taken other =>
      mover (guarded.unique (by simp [other, Point.held]) slot)
    rcases step.pends_cases cells numbered scope registered unregisters pends undropped with
      kept | ⟨-, absent⟩
    · exact .dropping u id count (by simp [registered]) there kept
    · exact .after count absent (Or.inr ⟨u, by simp [there, Point.bound]⟩)

omit accepts scope in
theorem Step.hookPhase_of_after (once : trace.countP (Seen.registers p) = 1)
    (absent : ∀ other, (m.group.registry other).hooksOf p = [])
    (coming : (m.group.provider p).finished = true ∨ ∃ u, (m.threads u).bound p) :
    HookPhase host p (trace ++ [seen]) next := by
  have unregisters : seen.registers p = false :=
    step.unregisters_of_registered (cells p known) once
  refine .after (by simp [once, unregisters]) (step.hooksOf_eq_nil unregisters absent) ?_
  rcases coming with set | ⟨u, bound⟩
  · exact Or.inl (step.stays_finished known set)
  · by_cases mover : u = t
    · subst mover
      rcases step.bound_cases known bound with still | done
      · exact Or.inr ⟨u, still⟩
      · exact Or.inl done
    · exact Or.inr ⟨u, by rwa [step.threads_of_ne mover]⟩

end

theorem Step.hookPhase {trace : List (Seen ε π)} {host : HookHost} (step : Step t m seen next)
    (known : p < m.group.providers.length) (guarded : Guarded m) (numbered : Numbered trace m)
    (cells : ∀ q, q < m.group.providers.length → CellInvariant q trace m)
    (scope : (m.group.provider p).scope = .global host)
    (accepts : ∀ reason, host ≠ .refusing reason) (phase : HookPhase host p trace m) :
    HookPhase host p (trace ++ [seen]) next := by
  cases phase with
  | before unregistered absent nobody unfinished =>
    exact step.hookPhase_of_before known cells scope accepts guarded unregistered absent nobody
      unfinished
  | pending id once registered noted pends clear nobody =>
    exact step.hookPhase_of_pending known cells scope accepts guarded numbered once registered
      noted pends clear nobody
  | dropping u id once registered here pends =>
    exact step.hookPhase_of_dropping known cells scope guarded numbered once registered here pends
  | after once absent coming => exact step.hookPhase_of_after known cells once absent coming

end

section
variable {world : σ} {chains : List (List (Stage σ ε π) × Scope)} {trace : List (Seen ε π)}
  {m : Machine σ ε π} {p : Nat} {host : HookHost}

theorem Run.cells (run : Run (.atRest (.ofChains world chains)) trace m) :
    ∀ q, q < m.group.providers.length → CellInvariant q trace m :=
  fun q known => run.cellInvariant (by rwa [run.length] at known)

theorem Run.numbered (run : Run (.atRest (.ofChains world chains)) trace m) :
    Numbered trace m := by
  induction run with
  | refl => constructor <;> simp
  | step before step ih => exact step.numbered before.cells ih

theorem Run.hookPhase (run : Run (.atRest (.ofChains world chains)) trace m)
    (known : p < chains.length) (scope : chains[p].2 = .global host)
    (accepts : ∀ reason, host ≠ .refusing reason) : HookPhase host p trace m := by
  induction run with
  | refl =>
    refine .before (by simp) (fun other => ?_) (fun t => ?_) ?_
    · cases other <;> rfl
    · simp [Machine.atRest, Point.fires]
    · simp [Machine.atRest]
  | step before step ih =>
    exact step.hookPhase (by rwa [before.length]) before.guarded before.numbered before.cells
      (by rw [before.scope known, scope]) accepts ih

end

end ContainerFixture
