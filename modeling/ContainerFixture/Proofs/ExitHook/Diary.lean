import ContainerFixture.Action
import ContainerFixture.ExitHook
import Mathlib.Data.List.Induction
import Mathlib.Data.List.Nodup

/-!
# A registry of exit hooks with its diary

A running hook may turn to the registry that it came from: it registers hooks, deregisters others,
and may panic on the way. `HookBody` is what such a hook does, and `HookDiary` a registry that
writes down what happens to it. What a diary shows at every point is `Kept`, which registering,
deregistering and each run of a hook preserve (`kept_play`).

The hooks of a process go through the same registry as those fired by hand, and the runner at its
exit is one more firing. A process that cannot install the runner takes no hook.
-/

namespace ContainerFixture

variable {α : Type}

/-- What a running hook asks of the registry. Each request may depend on the answers before it. -/
inductive HookBody (α : Type)
  | done
  | panic
  | register (hook : α) (next : HookId → HookBody α)
  | deregister (id : HookId) (next : Bool → HookBody α)

/-! ### Events -/

/-- What can happen to a registry. -/
inductive HookEvent (α : Type)
  | registered (id : HookId) (hook : α)
  | deregistered (id : HookId) (was : Bool)
  | fired
  | ran (id : HookId) (hook : α)

namespace HookEvent

@[simp, grind] def issued? : HookEvent α → Option (HookId × α)
  | .registered id hook => some (id, hook)
  | _ => none

@[simp, grind] def ran? : HookEvent α → Option (HookId × α)
  | .ran id hook => some (id, hook)
  | _ => none

/-- The number that an event drops from the pending ones. -/
@[simp, grind] def dropped? : HookEvent α → Option HookId
  | .deregistered id true => some id
  | _ => none

/-- The hooks that were given a number, oldest first. -/
def issuedIn (events : List (HookEvent α)) : List (HookId × α) := events.filterMap issued?

/-- The hooks that ran, oldest run first. -/
def ranIn (events : List (HookEvent α)) : List (HookId × α) := events.filterMap ran?

/-- The numbers dropped before their hooks ran. -/
def droppedIn (events : List (HookEvent α)) : List HookId := events.filterMap dropped?

/-- The pending hooks after one more event, newest first. -/
@[simp] def pendingStep (pending : List (HookId × α)) : HookEvent α → List (HookId × α)
  | .registered id hook => (id, hook) :: pending
  | .deregistered id _ => pending.filter fun entry => entry.1 ≠ id
  | .fired => []
  | .ran .. => pending

/-- The hooks that are pending after these events, newest first. -/
def pendingAfter (events : List (HookEvent α)) : List (HookId × α) := events.foldl pendingStep []

/-- Every deregistration was answered by whether the number was pending at that moment. -/
def Truthful (events : List (HookEvent α)) : Prop :=
  ∀ before id was, before ++ [.deregistered id was] <+: events →
    (was = true ↔ id ∈ (pendingAfter before).map Prod.fst)

section
variable (events later : List (HookEvent α)) (event : HookEvent α)

@[simp, grind =] theorem issuedIn_nil : issuedIn ([] : List (HookEvent α)) = [] := rfl
@[simp, grind =] theorem ranIn_nil : ranIn ([] : List (HookEvent α)) = [] := rfl
@[simp, grind =] theorem droppedIn_nil : droppedIn ([] : List (HookEvent α)) = [] := rfl

@[simp, grind =] theorem issuedIn_append :
    issuedIn (events ++ later) = issuedIn events ++ issuedIn later := List.filterMap_append

@[simp, grind =] theorem ranIn_append :
    ranIn (events ++ later) = ranIn events ++ ranIn later := List.filterMap_append

@[simp, grind =] theorem droppedIn_append :
    droppedIn (events ++ later) = droppedIn events ++ droppedIn later := List.filterMap_append

@[simp, grind =] theorem issuedIn_cons :
    issuedIn (event :: later) = event.issued?.toList ++ issuedIn later := by
  cases event <;> rfl

@[simp, grind =] theorem ranIn_cons :
    ranIn (event :: later) = event.ran?.toList ++ ranIn later := by
  cases event <;> rfl

@[simp, grind =] theorem droppedIn_cons :
    droppedIn (event :: later) = event.dropped?.toList ++ droppedIn later := by
  rw [droppedIn, List.filterMap_cons]
  cases event.dropped? <;> rfl

@[simp] theorem pendingAfter_concat :
    pendingAfter (events ++ [event]) = pendingStep (pendingAfter events) event := by
  simp [pendingAfter]

theorem truthful_nil : Truthful ([] : List (HookEvent α)) := by
  intro before id was here
  simp at here

variable {events event}

theorem Truthful.concat (truthful : Truthful events)
    (answered : ∀ id was, event = .deregistered id was →
      (was = true ↔ id ∈ (pendingAfter events).map Prod.fst)) :
    Truthful (events ++ [event]) := by
  intro before id was here
  rcases List.prefix_concat_iff.mp here with same | earlier
  · -- The deregistration is the new event, so what is pending before it is what `events` leave.
    obtain ⟨rfl, last⟩ := List.append_inj' same rfl
    exact answered id was (List.singleton_inj.mp last).symm
  · exact truthful before id was earlier

end

end HookEvent

open HookEvent

/-! ### Diaries -/

/-- A registry and what happened to it, oldest first. -/
structure HookDiary (α : Type) where
  registry : HookRegistry α := {}
  events : List (HookEvent α) := []

namespace HookDiary

/-- The numbers of the pending hooks, newest first. -/
def pendingIds (d : HookDiary α) : List HookId := d.registry.pending.map Prod.fst

def register (hook : α) (d : HookDiary α) : HookId × HookDiary α :=
  let (id, registry) := d.registry.register hook
  (id, { registry, events := d.events ++ [.registered id hook] })

def deregister (id : HookId) (d : HookDiary α) : Bool × HookDiary α :=
  let (was, registry) := d.registry.deregister id
  (was, { registry, events := d.events ++ [.deregistered id was] })

end HookDiary

/-- Does what a hook does. A panic ends it and keeps what it has done. -/
def HookBody.run : HookBody α → Action (HookDiary α) Unit Unit
  | .done => pure ()
  | .panic => .fail ()
  | .register hook next => fun d =>
    let (id, d) := d.register hook
    (next id).run d
  | .deregister id next => fun d =>
    let (was, d) := d.deregister id
    (next was).run d

namespace HookDiary

/-- Runs one hook that was taken out of the registry. Hooks share a memory, so what one does may
depend on all that happened before it. Its panic is caught. -/
def runHook (behaviour : α → List (HookEvent α) → HookBody α) (d : HookDiary α)
    (entry : HookId × α) : HookDiary α :=
  ((behaviour entry.2 d.events).run { d with events := d.events ++ [.ran entry.1 entry.2] }).2

/-- Runs the hooks pending at the start, newest first, and answers how many there were. -/
def fire (behaviour : α → List (HookEvent α) → HookBody α) (d : HookDiary α) :
    Nat × HookDiary α :=
  let (hooks, registry) := d.registry.drain
  (hooks.length,
    d.registry.pending.foldl (runHook behaviour) { registry, events := d.events ++ [.fired] })

end HookDiary

/-- What is asked of a registry from outside. -/
inductive HookRequest (α : Type)
  | register (hook : α)
  | deregister (id : HookId)
  | fire

namespace HookDiary

def perform (behaviour : α → List (HookEvent α) → HookBody α) (d : HookDiary α) :
    HookRequest α → HookDiary α
  | .register hook => (d.register hook).2
  | .deregister id => (d.deregister id).2
  | .fire => (d.fire behaviour).2

/-- A new registry after these requests. -/
def play (behaviour : α → List (HookEvent α) → HookBody α) (requests : List (HookRequest α)) :
    HookDiary α :=
  requests.foldl (perform behaviour) {}

theorem play_concat (behaviour : α → List (HookEvent α) → HookBody α)
    (requests : List (HookRequest α)) (request : HookRequest α) :
    play behaviour (requests ++ [request]) = (play behaviour requests).perform behaviour request :=
  List.foldl_concat ..

section
variable (d : HookDiary α) (hook : α) (id : HookId)

@[simp, grind =] theorem registry_register : (d.register hook).2.registry =
    { nextNumber := d.registry.nextNumber + 1,
      pending := (⟨d.registry.nextNumber⟩, hook) :: d.registry.pending } := rfl

@[simp, grind =] theorem events_register : (d.register hook).2.events =
    d.events ++ [.registered ⟨d.registry.nextNumber⟩ hook] := rfl

@[simp] theorem pendingIds_register :
    (d.register hook).2.pendingIds = ⟨d.registry.nextNumber⟩ :: d.pendingIds := rfl

@[simp, grind =] theorem registry_deregister : (d.deregister id).2.registry =
    { d.registry with pending := d.registry.pending.filter fun entry => entry.1 ≠ id } := rfl

@[simp, grind =] theorem events_deregister : (d.deregister id).2.events =
    d.events ++ [.deregistered id (d.deregister id).1] := rfl

@[simp] theorem pendingIds_deregister :
    (d.deregister id).2.pendingIds = d.pendingIds.filter fun other => other ≠ id := by
  simp only [pendingIds, registry_deregister, List.filter_map]
  rfl

theorem deregister_eq_true_iff : (d.deregister id).1 = true ↔ id ∈ d.pendingIds := by
  simp [deregister, HookRegistry.deregister, pendingIds]

theorem registry_deregister_of_not_mem (absent : id ∉ d.pendingIds) :
    (d.deregister id).2.registry = d.registry := by
  have same : (d.registry.pending.filter fun entry => entry.1 ≠ id) = d.registry.pending :=
    List.filter_eq_self.mpr fun entry waiting => by
      simpa using fun found : entry.1 = id => absent (found ▸ List.mem_map_of_mem waiting)
  rw [registry_deregister, same]

/-- What a deregistration takes from the pending hooks is what it notes as dropped. -/
theorem deregister_moves (distinct : d.pendingIds.Nodup) :
    ((d.deregister id).2.pendingIds ++
      droppedIn [(.deregistered id (d.deregister id).1 : HookEvent α)]).Perm d.pendingIds := by
  cases answer : (d.deregister id).1 with
  | true =>
    have waiting := d.deregister_eq_true_iff id |>.mp answer
    have erased : d.pendingIds.filter (fun other => other ≠ id) = d.pendingIds.erase id := by
      simp [distinct.erase_eq_filter, bne, beq_eq_decide]
    rw [pendingIds_deregister, erased]
    exact (List.perm_append_singleton _ _).trans (List.perm_cons_erase waiting).symm
  | false =>
    have absent : id ∉ d.pendingIds := fun waiting => by
      simp [(d.deregister_eq_true_iff id).mpr waiting] at answer
    rw [pendingIds, d.registry_deregister_of_not_mem id absent]
    simp [pendingIds]

end

/-! ### What a diary shows -/

/-- The state of a registry agrees with its diary, while the hooks in `taken` are out of the
registry and still to be run. -/
structure Kept (taken : List (HookId × α)) (d : HookDiary α) : Prop where
  next : d.registry.nextNumber = (issuedIn d.events).length + 1
  numbered : (issuedIn d.events).map Prod.fst =
    (List.range' 1 (issuedIn d.events).length).map HookId.mk
  genuine : d.registry.pending ++ taken ++ ranIn d.events ⊆ issuedIn d.events
  partition : (d.pendingIds ++ taken.map Prod.fst ++ (ranIn d.events).map Prod.fst ++
    droppedIn d.events).Perm ((issuedIn d.events).map Prod.fst)
  newestFirst : d.pendingIds.Pairwise fun newer older => older.number < newer.number
  pending : d.registry.pending = pendingAfter d.events
  truthful : Truthful d.events

namespace Kept

variable {taken : List (HookId × α)} {d : HookDiary α}

theorem empty : Kept [] ({} : HookDiary α) where
  next := rfl
  numbered := rfl
  genuine := by simp
  partition := by simp [pendingIds]
  newestFirst := .nil
  pending := rfl
  truthful := truthful_nil

theorem issued_nodup (kept : Kept taken d) : ((issuedIn d.events).map Prod.fst).Nodup := by
  rw [kept.numbered]
  exact List.Nodup.map (fun m n same => by simpa using same) (List.nodup_range' ..)

theorem partition_nodup (kept : Kept taken d) :
    (d.pendingIds ++ taken.map Prod.fst ++ (ranIn d.events).map Prod.fst ++
      droppedIn d.events).Nodup :=
  kept.partition.nodup_iff.mpr kept.issued_nodup

theorem pending_nodup (kept : Kept taken d) : d.pendingIds.Nodup :=
  kept.newestFirst.imp fun above same => by simp [same] at above

theorem mem_issued_iff_number (kept : Kept taken d) {id : HookId} :
    id ∈ (issuedIn d.events).map Prod.fst ↔
      0 < id.number ∧ id.number ≤ (issuedIn d.events).length := by
  rw [kept.numbered, List.mem_map]
  constructor
  · rintro ⟨n, inRange, rfl⟩
    have bounds := List.mem_range'_1.mp inRange
    exact ⟨bounds.1, show n ≤ _ by omega⟩
  · exact fun bounds => ⟨id.number, List.mem_range'_1.mpr (by omega), rfl⟩

theorem pending_issued (kept : Kept taken d) {id : HookId} (pending : id ∈ d.pendingIds) :
    id ∈ (issuedIn d.events).map Prod.fst :=
  kept.partition.subset (by simp [pending])

theorem number_lt_next (kept : Kept taken d) {id : HookId} (pending : id ∈ d.pendingIds) :
    id.number < d.registry.nextNumber := by
  rw [kept.next]
  exact Nat.lt_succ_of_le (kept.mem_issued_iff_number.mp (kept.pending_issued pending)).2

theorem register (kept : Kept taken d) (hook : α) : Kept taken (d.register hook).2 where
  next := by simp [kept.next]
  numbered := by simp [kept.numbered, kept.next, List.range'_1_concat, Nat.add_comm 1]
  genuine := by
    have old := kept.genuine
    grind
  partition := by
    simpa using (kept.partition.cons _).trans (List.perm_append_singleton _ _).symm
  newestFirst := List.pairwise_cons.mpr ⟨fun _ => kept.number_lt_next, kept.newestFirst⟩
  pending := by simp [kept.pending]
  truthful := kept.truthful.concat (by simp)

theorem deregister (kept : Kept taken d) (id : HookId) : Kept taken (d.deregister id).2 where
  next := by simp [kept.next]
  numbered := by simp [kept.numbered]
  genuine := by
    have old := kept.genuine
    grind
  partition := by
    let others := taken.map Prod.fst ++ (ranIn d.events).map Prod.fst ++ droppedIn d.events
    let latest := droppedIn [(.deregistered id (d.deregister id).1 : HookEvent α)]
    calc
      _ = (d.deregister id).2.pendingIds ++ (others ++ latest) := by simp [others, latest]
      List.Perm _ ((d.deregister id).2.pendingIds ++ (latest ++ others)) :=
        List.perm_append_comm.append_left _
      _ = (d.deregister id).2.pendingIds ++ latest ++ others := by simp
      List.Perm _ (d.pendingIds ++ others) :=
        (d.deregister_moves id kept.pending_nodup).append_right others
      List.Perm _ ((issuedIn d.events).map Prod.fst) := by
        simpa [others] using kept.partition
      _ = _ := by simp
  newestFirst := by
    rw [pendingIds_deregister]
    exact kept.newestFirst.filter _
  pending := by simp [kept.pending]
  truthful := kept.truthful.concat fun other was same => by
    obtain ⟨rfl, rfl⟩ := HookEvent.deregistered.inj same
    rw [← kept.pending]
    exact d.deregister_eq_true_iff id

/-- A firing takes the pending hooks out. -/
theorem fired (kept : Kept [] d) : Kept d.registry.pending
    { registry := d.registry.drain.2, events := d.events ++ [.fired] } where
  next := by simp [HookRegistry.drain, kept.next]
  numbered := by simp [kept.numbered]
  genuine := by simpa [HookRegistry.drain] using kept.genuine
  partition := by simpa [HookRegistry.drain, pendingIds] using kept.partition
  newestFirst := .nil
  pending := by simp [HookRegistry.drain]
  truthful := kept.truthful.concat (by simp)

/-- One of the hooks taken out starts to run. -/
theorem ran {entry : HookId × α} (kept : Kept (entry :: taken) d) :
    Kept taken { d with events := d.events ++ [.ran entry.1 entry.2] } where
  next := by simp [kept.next]
  numbered := by simp [kept.numbered]
  genuine := by
    have old := kept.genuine
    grind
  partition := by
    -- The number goes from the hooks taken out to those that ran.
    have moved : (taken.map Prod.fst ++ (ranIn d.events).map Prod.fst ++
        entry.1 :: droppedIn d.events).Perm _ := List.perm_middle
    simpa [pendingIds] using (moved.append_left d.pendingIds).trans (by simpa using kept.partition)
  newestFirst := kept.newestFirst
  pending := by simp [kept.pending]
  truthful := kept.truthful.concat (by simp)

theorem run (kept : Kept taken d) (body : HookBody α) : Kept taken (body.run d).2 := by
  induction body generalizing d with
  | done | panic => exact kept
  | register hook next ih => exact ih _ (kept.register hook)
  | deregister id next ih => exact ih _ (kept.deregister id)

theorem runHooks (behaviour : α → List (HookEvent α) → HookBody α) (kept : Kept taken d) :
    Kept [] (taken.foldl (runHook behaviour) d) := by
  induction taken generalizing d with
  | nil => exact kept
  | cons entry left ih => exact ih (kept.ran.run _)

theorem fire (behaviour : α → List (HookEvent α) → HookBody α) (kept : Kept [] d) :
    Kept [] (d.fire behaviour).2 :=
  kept.fired.runHooks behaviour

theorem perform (behaviour : α → List (HookEvent α) → HookBody α) (kept : Kept [] d)
    (request : HookRequest α) : Kept [] (d.perform behaviour request) := by
  cases request with
  | register hook => exact kept.register hook
  | deregister id => exact kept.deregister id
  | fire => exact kept.fire behaviour

end Kept

theorem kept_play (behaviour : α → List (HookEvent α) → HookBody α)
    (requests : List (HookRequest α)) : Kept [] (play behaviour requests) := by
  -- The induction is from the last request, since a request meets what the earlier ones left.
  induction requests using List.reverseRecOn with
  | nil => exact .empty
  | append_singleton requests request ih =>
    rw [play_concat]
    exact ih.perform behaviour request

end HookDiary

end ContainerFixture
