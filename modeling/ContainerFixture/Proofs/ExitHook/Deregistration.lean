import ContainerFixture.Proofs.ExitHook.Accounts

/-!
# What a deregistration prevents

Deregistering a hook is meant to keep it from running. It does so as long as no firing has begun
since the hook was registered. A firing takes every pending hook out of the registry before it runs
the first of them, so a hook that waits for its turn in a firing is no longer found by the hooks
that run before it: they are told `false`, and it runs all the same (`deregistered_in_vain`).

## Main result

`deregister_prevents`: every deregistration of a diary, also one by a running hook, is answered with
`true` just when the hook awaits its run and no firing has begun since it was registered. Such a
hook never runs. One that a firing has taken out runs in what is left of the firing.

## Proof strategy

The numbers of a diary are given out once and its answers are truthful, so what is pending can be
told from the events alone: it is what was registered and not deregistered, and saw no firing
(`not_pending_of_firedSince`, `pending_or_firedSince`). How a diary ends is known from
`play_accounted`.
-/

namespace ContainerFixture

variable {α : Type}

namespace HookEvent

/-! ### What the events say of one hook -/

/-- The hook with this number is registered, and was neither deregistered nor started. -/
structure Awaits (events : List (HookEvent α)) (id : HookId) : Prop where
  registered : ∃ hook, .registered id hook ∈ events
  kept : .deregistered id true ∉ events
  unstarted : ∀ hook, .ran id hook ∉ events

/-- A firing has begun since the hook with this number was registered. -/
def FiredSince (events : List (HookEvent α)) (id : HookId) : Prop :=
  ∃ earlier later hook, events = earlier ++ .fired :: later ∧ .registered id hook ∈ earlier

variable {events earlier later : List (HookEvent α)} {id : HookId}

theorem mem_picked_iff {pick : HookEvent α → Option (HookId × α)}
    {event : HookId → α → HookEvent α}
    (picks : ∀ e id hook, pick e = some (id, hook) ↔ e = event id hook) :
    id ∈ (events.filterMap pick).map Prod.fst ↔ ∃ hook, event id hook ∈ events := by
  constructor
  · intro member
    obtain ⟨⟨found, hook⟩, picked, rfl⟩ := List.mem_map.mp member
    obtain ⟨e, here, given⟩ := List.mem_filterMap.mp picked
    exact ⟨hook, (picks e found hook).mp given ▸ here⟩
  · rintro ⟨hook, here⟩
    have picked := List.mem_filterMap.mpr ⟨_, here, (picks _ id hook).mpr rfl⟩
    exact List.mem_map_of_mem picked

theorem mem_issuedIn_iff : id ∈ (issuedIn events).map Prod.fst ↔
    ∃ hook, .registered id hook ∈ events :=
  mem_picked_iff fun e id hook => by cases e <;> simp

theorem mem_ranIn_iff : id ∈ (ranIn events).map Prod.fst ↔ ∃ hook, .ran id hook ∈ events :=
  mem_picked_iff fun e id hook => by cases e <;> simp

theorem mem_droppedIn_iff : id ∈ droppedIn events ↔ .deregistered id true ∈ events := by
  constructor
  · intro dropped
    obtain ⟨event, here, given⟩ := List.mem_filterMap.mp dropped
    match event, given with
    | .deregistered _ true, rfl => exact here
  · intro here
    exact List.mem_filterMap.mpr ⟨_, here, rfl⟩

theorem FiredSince.append (fired : FiredSince events id) (more : List (HookEvent α)) :
    FiredSince (events ++ more) id := by
  obtain ⟨earlier, later, hook, rfl, registered⟩ := fired
  exact ⟨earlier, later ++ more, hook, by simp, registered⟩

theorem Truthful.of_prefix (truthful : Truthful later) (sooner : events <+: later) :
    Truthful events :=
  fun before id was here => truthful before id was (here.trans sooner)

theorem registered_of_pending (pending : id ∈ (pendingAfter events).map Prod.fst) :
    ∃ hook, .registered id hook ∈ events := by
  induction events using List.reverseRecOn with
  | nil => simp [pendingAfter] at pending
  | append_singleton events event ih =>
    have before (waits : id ∈ (pendingAfter events).map Prod.fst) :
        ∃ hook, .registered id hook ∈ events ++ [event] := by
      obtain ⟨hook, registered⟩ := ih waits
      exact ⟨hook, List.mem_append_left _ registered⟩
    rw [pendingAfter_concat] at pending
    cases event with
    | registered newest hook =>
      rcases List.mem_cons.mp pending with rfl | waits
      · exact ⟨hook, by simp⟩
      · exact before waits
    | deregistered other was =>
      obtain ⟨entry, left, rfl⟩ := List.mem_map.mp pending
      exact before (List.mem_map_of_mem (List.mem_of_mem_filter left))
    | fired => simp at pending
    | ran other hook => exact before pending

/-- A hook is pending no more once a firing has begun, since its number is not given out again. -/
theorem not_pending_of_firedSince (once : ((issuedIn events).map Prod.fst).Nodup)
    (fired : FiredSince events id) : id ∉ (pendingAfter events).map Prod.fst := by
  obtain ⟨earlier, later, hook, rfl, registered⟩ := fired
  -- The induction goes through what happened since the firing, which left nothing pending.
  induction later using List.reverseRecOn with
  | nil => simp
  | append_singleton later event ih =>
    have split : earlier ++ .fired :: (later ++ [event]) =
        (earlier ++ .fired :: later) ++ [event] := by simp
    rw [split] at once ⊢
    rw [issuedIn_append, List.map_append, List.nodup_append] at once
    obtain ⟨before, -, apart⟩ := once
    have absent := ih before
    rw [pendingAfter_concat]
    cases event with
    | registered newest hook' =>
      have known : id ∈ (issuedIn (earlier ++ .fired :: later)).map Prod.fst :=
        mem_issuedIn_iff.mpr ⟨hook, List.mem_append_left _ registered⟩
      have other : id ≠ newest := apart id known newest (by simp)
      simpa [other] using absent
    | deregistered other was =>
      intro pending
      obtain ⟨entry, left, rfl⟩ := List.mem_map.mp pending
      exact absent (List.mem_map_of_mem (List.mem_of_mem_filter left))
    | fired => simp
    | ran other hook' => exact absent

/-- While it is registered and not deregistered, a hook is pending or has seen a firing begin. -/
theorem pending_or_firedSince (truthful : Truthful events)
    (registered : ∃ hook, .registered id hook ∈ events)
    (kept : .deregistered id true ∉ events) :
    id ∈ (pendingAfter events).map Prod.fst ∨ FiredSince events id := by
  induction events using List.reverseRecOn with
  | nil => simp at registered
  | append_singleton events event ih =>
    have earlier : Truthful events := truthful.of_prefix (List.prefix_append events [event])
    have keptThen : .deregistered id true ∉ events :=
      fun dropped => kept (List.mem_append_left _ dropped)
    rw [pendingAfter_concat]
    obtain ⟨hook, registered⟩ := registered
    rcases List.mem_append.mp registered with before | now
    · -- It was registered before the last event, which may only end its being pending.
      rcases ih earlier ⟨hook, before⟩ keptThen with pending | fired
      · cases event with
        | registered other hook' => exact Or.inl (List.mem_cons_of_mem _ pending)
        | deregistered other was =>
          by_cases same : other = id
          · subst same
            have answered := (truthful events other was (List.prefix_refl _)).mpr pending
            subst answered
            exact absurd (by simp) kept
          · left
            obtain ⟨entry, waits, rfl⟩ := List.mem_map.mp pending
            exact List.mem_map_of_mem (List.mem_filter.mpr ⟨waits, by simp [Ne.symm same]⟩)
        | fired => exact Or.inr ⟨events, [], hook, rfl, before⟩
        | ran other hook' => exact Or.inl pending
      · exact Or.inr (fired.append [event])
    · cases List.mem_singleton.mp now
      left
      simp

/-- What a firing has taken out is not found by a later deregistration. -/
theorem not_deregistered_of_firedSince (truthful : Truthful (events ++ later))
    (once : ((issuedIn (events ++ later)).map Prod.fst).Nodup) (fired : FiredSince events id) :
    .deregistered id true ∉ later := by
  intro dropped
  obtain ⟨between, rest, rfl⟩ := List.mem_iff_append.mp dropped
  have sooner : events ++ between ++ [.deregistered id true] <+:
      events ++ (between ++ .deregistered id true :: rest) := ⟨rest, by simp⟩
  have pending := (truthful (events ++ between) id true sooner).mp rfl
  refine not_pending_of_firedSince ?_ (fired.append between) pending
  rw [← List.append_assoc, issuedIn_append, List.map_append] at once
  exact once.of_append_left

end HookEvent

open HookEvent

namespace HookDiary

/-! ### One deregistration in a diary -/

namespace Kept

variable {d : HookDiary α} {id : HookId} {was : Bool} {before after : List (HookEvent α)}

theorem registered_iff (kept : Kept [] d) : (∃ hook, .registered id hook ∈ d.events) ↔
    id ∈ d.pendingIds ∨ (∃ hook, .ran id hook ∈ d.events) ∨ .deregistered id true ∈ d.events := by
  rw [← mem_issuedIn_iff, ← mem_ranIn_iff, ← mem_droppedIn_iff]
  exact kept.mem_issued_iff id

/-- Between two requests the hooks that await their run are those that are pending. -/
theorem mem_pendingIds_iff (kept : Kept [] d) : id ∈ d.pendingIds ↔ Awaits d.events id := by
  constructor
  · intro pending
    have distinct := kept.accounted.distinct
    rw [List.append_assoc, List.nodup_append] at distinct
    obtain ⟨-, -, apart⟩ := distinct
    refine ⟨kept.registered_iff.mpr (Or.inl pending), fun dropped => ?_, fun hook ran => ?_⟩
    · have mem := mem_droppedIn_iff.mpr dropped
      exact apart id pending id (List.mem_append_right _ mem) rfl
    · have mem := mem_ranIn_iff.mpr ⟨hook, ran⟩
      exact apart id pending id (List.mem_append_left _ mem) rfl
  · rintro ⟨registered, undropped, unstarted⟩
    rcases kept.registered_iff.mp registered with pending | ⟨hook, ran⟩ | dropped
    · exact pending
    · exact absurd ran (unstarted hook)
    · exact absurd dropped undropped

/-- A hook that was deregistered runs neither before nor later. -/
theorem never_runs (kept : Kept [] d) (noted : d.events = before ++ .deregistered id was :: after)
    (yes : was = true) (hook : α) : .ran id hook ∉ d.events := by
  have dropped : .deregistered id true ∈ d.events := by simp [noted, yes]
  exact kept.accounted.dropped id dropped hook

theorem dropped_once (kept : Kept [] d) (noted : d.events = before ++ .deregistered id was :: after)
    (yes : was = true) : .deregistered id true ∉ before := by
  intro earlier
  have distinct := (List.nodup_append.mp kept.accounted.distinct).2.1
  rw [noted, yes, droppedIn_append, droppedIn_cons] at distinct
  obtain ⟨-, -, apart⟩ := List.nodup_append.mp distinct
  exact apart id (mem_droppedIn_iff.mpr earlier) id (by simp) rfl

theorem answered_iff (kept : Kept [] d)
    (noted : d.events = before ++ .deregistered id was :: after) :
    was = true ↔ Awaits before id ∧ ¬FiredSince before id := by
  have truthful : Truthful (before ++ .deregistered id was :: after) := noted ▸ kept.truthful
  have once := kept.issued_nodup
  rw [noted, issuedIn_append, List.map_append] at once
  have answered : was = true ↔ id ∈ (pendingAfter before).map Prod.fst :=
    truthful before id was ⟨after, by simp⟩
  constructor
  · intro yes
    have pending := answered.mp yes
    constructor
    · refine ⟨registered_of_pending pending, kept.dropped_once noted yes, fun hook ran => ?_⟩
      exact kept.never_runs noted yes hook (noted ▸ List.mem_append_left _ ran)
    · exact fun fired => not_pending_of_firedSince once.of_append_left fired pending
  · rintro ⟨awaits, unfired⟩
    have truthfulThen := truthful.of_prefix (List.prefix_append before _)
    apply answered.mpr
    exact (pending_or_firedSince truthfulThen awaits.registered awaits.kept).resolve_right unfired

/-- A hook that a firing has taken out, and has not come to yet, runs later. -/
theorem runs_later (kept : Kept [] d) (noted : d.events = before ++ .deregistered id was :: after)
    (awaits : Awaits before id) (fired : FiredSince before id) : ∃ hook, .ran id hook ∈ after := by
  have firedLast : FiredSince d.events id := noted ▸ fired.append _
  have undropped := not_deregistered_of_firedSince (noted ▸ kept.truthful)
    (noted ▸ kept.issued_nodup) fired
  obtain ⟨hook, registered⟩ := awaits.registered
  -- In the end the hook is settled, and of the three ways to be so only one is left.
  rcases kept.registered_iff.mp ⟨hook, noted ▸ List.mem_append_left _ registered⟩ with
    pending | ⟨hook, ran⟩ | dropped
  · rw [pendingIds, kept.pending] at pending
    exact absurd pending (not_pending_of_firedSince kept.issued_nodup firedLast)
  · rw [noted] at ran
    rcases List.mem_append.mp ran with early | late
    · exact absurd early (awaits.unstarted hook)
    · exact ⟨hook, List.mem_of_ne_of_mem (by simp) late⟩
  · rw [noted] at dropped
    rcases List.mem_append.mp dropped with early | late
    · exact absurd early awaits.kept
    · exact absurd late undropped

end Kept

/-! ### Main result -/

/-- A deregistration keeps a hook from running if the hook awaits its run and no firing has begun
since it was registered, and then it says so. So it does in every case between two requests. A hook
that a firing has taken out and not yet come to cannot be kept from running any more: the answer is
`false`, and the hook runs later in the firing. -/
theorem deregister_prevents (behaviour : α → List (HookEvent α) → HookBody α)
    (requests : List (HookRequest α)) :
    let d := play behaviour requests
    (∀ id, (d.deregister id).1 = true ↔ Awaits d.events id) ∧
      ∀ before id was after, d.events = before ++ .deregistered id was :: after →
        (was = true ↔ Awaits before id ∧ ¬FiredSince before id) ∧
        (was = true → ∀ hook, .ran id hook ∉ d.events) ∧
        (Awaits before id → FiredSince before id → ∃ hook, .ran id hook ∈ after) := by
  intro d
  have kept : Kept [] d := kept_play behaviour requests
  constructor
  · intro id
    rw [deregister_eq_true_iff]
    exact kept.mem_pendingIds_iff
  · intro before id was after noted
    exact ⟨kept.answered_iff noted, kept.never_runs noted, kept.runs_later noted⟩

/-! ### A deregistration that comes too late -/

/-- Two hooks, the newer of which deregisters the older one. -/
def meddling (hook : String) (_ : List (HookEvent String)) : HookBody String :=
  if hook = "newer" then .deregister ⟨1⟩ fun _ => .done else .done

def meddled : List (HookRequest String) := [.register "older", .register "newer", .fire]

/-- What happens to them until the older hook is deregistered. -/
def untilMeddled : List (HookEvent String) :=
  [.registered ⟨1⟩ "older", .registered ⟨2⟩ "newer", .fired, .ran ⟨2⟩ "newer"]

theorem events_meddled : (play meddling meddled).events =
    untilMeddled ++ .deregistered ⟨1⟩ false :: [.ran ⟨1⟩ "older"] := rfl

theorem awaits_meddled : Awaits untilMeddled ⟨1⟩ where
  registered := ⟨"older", by simp [untilMeddled]⟩
  kept := by simp [untilMeddled]
  unstarted := by simp [untilMeddled]

theorem firedSince_meddled : FiredSince untilMeddled ⟨1⟩ :=
  ⟨[.registered ⟨1⟩ "older", .registered ⟨2⟩ "newer"], [.ran ⟨2⟩ "newer"], "older", rfl, by simp⟩

theorem deregister_prevents_of_meddled :
    Awaits untilMeddled ⟨1⟩ ∧ FiredSince untilMeddled ⟨1⟩ ∧
      ∃ hook, .ran ⟨1⟩ hook ∈ [(.ran ⟨1⟩ "older" : HookEvent String)] :=
  have decided := (deregister_prevents meddling meddled).2 _ _ _ _ events_meddled
  ⟨awaits_meddled, firedSince_meddled, decided.2.2 awaits_meddled firedSince_meddled⟩

/-- The hook is registered, not deregistered and not started, and yet its deregistration is refused
and it runs. -/
theorem deregistered_in_vain : ∃ before after,
    (play meddling meddled).events = before ++ .deregistered ⟨1⟩ false :: after ∧
      Awaits before ⟨1⟩ ∧ .ran ⟨1⟩ "older" ∈ after :=
  ⟨untilMeddled, [.ran ⟨1⟩ "older"], events_meddled, awaits_meddled, List.mem_singleton.mpr rfl⟩

end HookDiary

end ContainerFixture
