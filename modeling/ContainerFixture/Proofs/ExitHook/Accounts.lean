import ContainerFixture.Proofs.ExitHook.Diary

/-!
# Exit hooks are accounted for once

Whatever the hooks do while they run, every number given out is that of a hook that is pending, has
run, or was deregistered, and of only one of these. A firing runs the hooks that were pending when
it began, and leaves those that they registered. The main result is `play_accounted`.
-/

namespace ContainerFixture.HookDiary

open HookEvent

variable {α : Type} {d : HookDiary α} (behaviour : α → List (HookEvent α) → HookBody α)

/-! ### What a firing adds to the diary -/

/-- No hook runs inside another one. -/
theorem events_run (body : HookBody α) (d : HookDiary α) : ∃ during,
    (body.run d).2.events = d.events ++ during ∧ ranIn during = [] := by
  induction body generalizing d with
  | done | panic => exact ⟨[], (List.append_nil _).symm, rfl⟩
  | register hook next ih =>
    obtain ⟨during, after, silent⟩ := ih ⟨d.registry.nextNumber⟩ (d.register hook).2
    exact ⟨.registered ⟨d.registry.nextNumber⟩ hook :: during, after.trans (by simp), by simpa⟩
  | deregister id next ih =>
    obtain ⟨during, after, silent⟩ := ih (d.deregister id).1 (d.deregister id).2
    exact ⟨.deregistered id (d.deregister id).1 :: during, after.trans (by simp), by simpa⟩

theorem events_runHooks (taken : List (HookId × α)) (d : HookDiary α) : ∃ during,
    (taken.foldl (runHook behaviour) d).events = d.events ++ during ∧ ranIn during = taken := by
  induction taken generalizing d with
  | nil => exact ⟨[], (List.append_nil _).symm, rfl⟩
  | cons entry left ih =>
    obtain ⟨inside, after, silent⟩ := events_run (behaviour entry.2 d.events)
      { d with events := d.events ++ [.ran entry.1 entry.2] }
    obtain ⟨during, last, rest⟩ := ih (d.runHook behaviour entry)
    -- What the first hook does inside it comes before the runs of the others, and is no run.
    refine ⟨.ran entry.1 entry.2 :: inside ++ during, ?_, by simp [silent, rest]⟩
    rw [List.foldl_cons, last, runHook, after]
    simp

theorem events_fire (d : HookDiary α) : ∃ during,
    (d.fire behaviour).2.events = d.events ++ .fired :: during ∧
      ranIn during = d.registry.pending := by
  obtain ⟨during, after, all⟩ := events_runHooks behaviour d.registry.pending
    { registry := d.registry.drain.2, events := d.events ++ [.fired] }
  exact ⟨during, after.trans (by simp), all⟩

/-! ### Accounts -/

/-- Every number given out is accounted for. -/
structure Accounted (d : HookDiary α) : Prop where
  /-- Numbers are given out from 1 on, in order and each once. -/
  numbered : (issuedIn d.events).map Prod.fst =
    (List.range' 1 (issuedIn d.events).length).map HookId.mk
  /-- Each of them is pending, ran, or was dropped. -/
  partition : (d.pendingIds ++ (ranIn d.events).map Prod.fst ++ droppedIn d.events).Perm
    ((issuedIn d.events).map Prod.fst)
  /-- It is only one of these, and only once. -/
  distinct : (d.pendingIds ++ (ranIn d.events).map Prod.fst ++ droppedIn d.events).Nodup
  /-- A number stands for the hook that was registered with it. -/
  genuine : d.registry.pending ++ ranIn d.events ⊆ issuedIn d.events
  newestFirst : d.pendingIds.Pairwise fun newer older => older.number < newer.number
  /-- The events tell which hooks are pending. -/
  pending : d.registry.pending = pendingAfter d.events
  /-- A deregistration, also one by a running hook, is told whether the number was pending. -/
  truthful : Truthful d.events
  /-- A hook that was deregistered while it was pending never runs. -/
  dropped : ∀ id, .deregistered id true ∈ d.events → ∀ hook, .ran id hook ∉ d.events

/-- A firing that added `during` to the diary, with its outcome. -/
structure Firing (d : HookDiary α) (during : List (HookEvent α)) (outcome : Nat × HookDiary α) :
    Prop where
  count : outcome.1 = d.registry.pending.length
  events : outcome.2.events = d.events ++ .fired :: during
  /-- The hooks that were pending run, in this order, and no other. -/
  ran : ranIn during = d.registry.pending
  /-- What a running hook registers does not run. -/
  waits : List.Disjoint ((issuedIn during).map Prod.fst) ((ranIn during).map Prod.fst)
  /-- What a running hook registers is left pending, unless it is deregistered. -/
  left : ∀ id, id ∈ outcome.2.pendingIds ↔
    id ∈ (issuedIn during).map Prod.fst ∧ id ∉ droppedIn during

namespace Kept

theorem mem_issued_iff (kept : Kept [] d) (id : HookId) :
    id ∈ (issuedIn d.events).map Prod.fst ↔
      id ∈ d.pendingIds ∨ id ∈ (ranIn d.events).map Prod.fst ∨ id ∈ droppedIn d.events := by
  simpa [or_assoc] using kept.partition.mem_iff.symm

theorem accounted (kept : Kept [] d) : d.Accounted where
  numbered := kept.numbered
  partition := by simpa using kept.partition
  distinct := by simpa using kept.partition_nodup
  genuine := by simpa using kept.genuine
  newestFirst := kept.newestFirst
  pending := kept.pending
  truthful := kept.truthful
  dropped := by
    intro id was hook ran
    have dropped : id ∈ droppedIn d.events := List.mem_filterMap.mpr ⟨_, was, rfl⟩
    have ran : (id, hook) ∈ ranIn d.events := List.mem_filterMap.mpr ⟨_, ran, rfl⟩
    exact List.disjoint_of_nodup_append kept.partition_nodup
      (List.mem_append_right _ (List.mem_map_of_mem ran)) dropped

theorem firing (kept : Kept [] d) : ∃ during, d.Firing during (d.fire behaviour) := by
  obtain ⟨during, events, ran⟩ := events_fire behaviour d
  have after := kept.fire behaviour
  -- The numbers of before are given out no second time, and those pending at the end are not settled.
  have fresh : List.Disjoint ((issuedIn d.events).map Prod.fst)
      ((issuedIn during).map Prod.fst) := by
    have distinct := after.issued_nodup
    rw [events] at distinct
    exact List.disjoint_of_nodup_append (by simpa using distinct)
  have settled : List.Disjoint (d.fire behaviour).2.pendingIds
      ((ranIn d.events).map Prod.fst ++ d.pendingIds ++
        (droppedIn d.events ++ droppedIn during)) := by
    have distinct := after.partition_nodup
    rw [events] at distinct
    exact List.disjoint_of_nodup_append (by simpa [ran, pendingIds] using distinct)
  have known := kept.mem_issued_iff
  have now (id : HookId) :
      id ∈ (issuedIn d.events).map Prod.fst ++ (issuedIn during).map Prod.fst ↔
        id ∈ (d.fire behaviour).2.pendingIds ++ ((ranIn d.events).map Prod.fst ++ d.pendingIds ++
          (droppedIn d.events ++ droppedIn during)) := by
    simpa [events, ran, pendingIds, or_assoc] using after.mem_issued_iff id
  refine ⟨during, by simp [HookDiary.fire, HookRegistry.drain], events, ran, ?_, fun id => ?_⟩
  · rw [ran]
    exact fun id new old => fresh ((known id).mpr (Or.inl old)) new
  · constructor
    · -- Before the firing every number was pending, and so ran in it, or was settled already.
      intro left
      have unsettled := settled left
      have issued := (now id).mpr (List.mem_append_left _ left)
      grind
    · rintro ⟨new, undropped⟩
      have issued := (now id).mp (List.mem_append_right _ new)
      have notOld : id ∉ (issuedIn d.events).map Prod.fst := fun old => fresh old new
      grind

end Kept

/-- Exit hooks are accounted for once, after any requests and whatever the hooks do. The next
number, the answer to a deregistration and a firing are as the account says. -/
theorem play_accounted (behaviour : α → List (HookEvent α) → HookBody α)
    (requests : List (HookRequest α)) :
    let d := play behaviour requests
    d.Accounted ∧
      (∀ hook, (d.register hook).1 = ⟨(issuedIn d.events).length + 1⟩) ∧
      (∀ id, (d.deregister id).1 = true ↔ id ∈ d.pendingIds) ∧
      ∃ during, d.Firing during (d.fire behaviour) := by
  have kept := kept_play behaviour requests
  refine ⟨kept.accounted, ?_, deregister_eq_true_iff _, kept.firing behaviour⟩
  intro hook
  exact congrArg HookId.mk kept.next

end ContainerFixture.HookDiary
