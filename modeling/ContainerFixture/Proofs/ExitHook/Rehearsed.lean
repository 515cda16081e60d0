import ContainerFixture.ExitHook.Rehearsal
import ContainerFixture.Proofs.ExitHook.Diary

/-!
# Rehearsed hooks are such hooks

A rehearsal is a diary whose hooks do what their scripts say: the registries are the same after
every step, the answers too, and the journal of a firing tells the events of that firing
(`Follows.fire`). What holds of every diary so holds of rehearsals.
-/

namespace ContainerFixture

open HookEvent

/-! ### What a script asks for -/

namespace HookBody

variable {α : Type} (next : HookBody α) (d : HookDiary α)

def registerAll (hooks : List α) : HookBody α :=
  hooks.foldr (fun hook next => .register hook fun _ => next) next

def deregisterAll (ids : List HookId) : HookBody α :=
  ids.foldr (fun id next => .deregister id fun _ => next) next

theorem run_registerAll (hooks : List α) : (next.registerAll hooks).run d =
    next.run (hooks.foldl (fun d hook => (d.register hook).2) d) := by
  induction hooks generalizing d with
  | nil => rfl
  | cons hook left ih => exact ih (d.register hook).2

theorem run_deregisterAll (ids : List HookId) : (next.deregisterAll ids).run d =
    next.run (ids.foldl (fun d id => (d.deregister id).2) d) := by
  induction ids generalizing d with
  | nil => rfl
  | cons id left ih => exact ih (d.deregister id).2

end HookBody

namespace ScriptedHook

/-- The numbers that a script deregisters, when `known` numbers were given out. The others of its
places have no number. -/
def dropped (hook : ScriptedHook) (known : Nat) : List HookId :=
  (hook.deregisters.filter fun place => place < known).map fun place => ⟨place + 1⟩

/-- What a scripted hook does. -/
def behaviour (hook : ScriptedHook) (events : List (HookEvent ScriptedHook)) :
    HookBody ScriptedHook :=
  ((if hook.panics then HookBody.panic else .done).deregisterAll
    (hook.dropped ((issuedIn events).length + hook.registers.length))).registerAll hook.registers

theorem run_behaviour (hook : ScriptedHook) (events : List (HookEvent ScriptedHook))
    (d : HookDiary ScriptedHook) : ((hook.behaviour events).run d).2 =
      (hook.dropped ((issuedIn events).length + hook.registers.length)).foldl
        (fun d id => (d.deregister id).2)
        (hook.registers.foldl (fun d hook => (d.register hook).2) d) := by
  rw [behaviour, HookBody.run_registerAll, HookBody.run_deregisterAll]
  split <;> rfl

end ScriptedHook

/-- What the journal says about an event of a running hook. -/
def HookEvent.line? : HookEvent ScriptedHook → Option String
  | .ran _ hook => some hook.name
  | .deregistered id was =>
    let place := id.number - 1
    some s!"deregister {place}: {was}"
  | _ => none

namespace HookRehearsal

/-- Deregisters the hook at a place, if there is one, and enters the answer in the journal. -/
def drop (r : HookRehearsal) (place : Nat) : HookRehearsal :=
  match r.deregister? place with
  | none => r
  | some (was, r) => { r with journal := s!"deregister {place}: {was}" :: r.journal }

theorem run_eq (r : HookRehearsal) (hook : ScriptedHook) : r.run hook =
    hook.deregisters.foldl drop (hook.registers.foldl (fun r hook => (r.register hook).2)
      { r with journal := hook.name :: r.journal }) := rfl

/-- Since there were the entries `written` and the events `noted`, the entries tell the events. -/
def Told (written : List String) (noted : List (HookEvent ScriptedHook)) (entries : List String)
    (events : List (HookEvent ScriptedHook)) : Prop :=
  ∃ during, events = noted ++ during ∧ entries = written ++ during.filterMap line?

/-- A rehearsal and a diary are in the same state, and the journal of the one tells the events of
the other. -/
structure Follows (written : List String) (noted : List (HookEvent ScriptedHook))
    (r : HookRehearsal) (d : HookDiary ScriptedHook) : Prop where
  registry : r.registry = d.registry
  issued : r.issued = (issuedIn d.events).map Prod.fst
  told : Told written noted r.entries d.events

section
variable {written : List String} {noted : List (HookEvent ScriptedHook)} {r : HookRehearsal}
  {d : HookDiary ScriptedHook} {taken : List (HookId × ScriptedHook)}

theorem told_refl : Told written noted written noted :=
  ⟨[], (List.append_nil _).symm, (List.append_nil _).symm⟩

theorem Told.concat {entries : List String} {events : List (HookEvent ScriptedHook)}
    (told : Told written noted entries events) (event : HookEvent ScriptedHook) :
    Told written noted (entries ++ event.line?.toList) (events ++ [event]) := by
  obtain ⟨during, rfl, rfl⟩ := told
  refine ⟨during ++ [event], by simp, ?_⟩
  cases said : event.line? <;> simp [said]

namespace Follows

theorem empty : Follows [] [] {} {} where
  registry := rfl
  issued := rfl
  told := told_refl

theorem getElem?_issued (follows : Follows written noted r d) (kept : d.Kept taken)
    (place : Nat) : r.issued[place]? =
      if place < (issuedIn d.events).length then some ⟨place + 1⟩ else none := by
  rw [follows.issued, kept.numbered, List.getElem?_map]
  split
  next known => simp [List.getElem?_range' known, Nat.add_comm]
  next unknown => simp [List.getElem?_eq_none (l := List.range' 1 _) (by simpa using unknown)]

theorem register (follows : Follows written noted r d) (hook : ScriptedHook) :
    (r.register hook).1 = (d.register hook).1 ∧
      Follows written noted (r.register hook).2 (d.register hook).2 := by
  have registry := follows.registry
  refine ⟨by simp [HookRehearsal.register, HookDiary.register, registry],
    by simp [HookRehearsal.register, HookRegistry.register, registry],
    by simp [HookRehearsal.register, HookRegistry.register, registry, follows.issued], ?_⟩
  simpa [line?, HookRehearsal.register, HookRehearsal.entries] using
    follows.told.concat (.registered ⟨d.registry.nextNumber⟩ hook)

theorem deregister?_eq (follows : Follows written noted r d) (kept : d.Kept taken) (place : Nat) :
    r.deregister? place =
      if place < (issuedIn d.events).length then
        some ((d.deregister ⟨place + 1⟩).1,
          { r with registry := (d.deregister ⟨place + 1⟩).2.registry })
      else none := by
  rw [HookRehearsal.deregister?, follows.getElem?_issued kept]
  split <;> simp [HookRegistry.deregister, HookDiary.deregister, follows.registry]

/-- A deregistration from outside leaves no line in the journal. -/
theorem deregister (follows : Follows written noted r d) (id : HookId) :
    Follows r.entries (d.deregister id).2.events
      { r with registry := (d.deregister id).2.registry } (d.deregister id).2 :=
  ⟨rfl, by simp [follows.issued], told_refl⟩

/-- A number that was not given out has no place. -/
theorem deregister_unknown (follows : Follows written noted r d) (kept : d.Kept taken) {id : HookId}
    (unknown : id ∉ (issuedIn d.events).map Prod.fst) :
    Follows r.entries (d.deregister id).2.events r (d.deregister id).2 := by
  have absent : id ∉ d.pendingIds := fun waiting => unknown (kept.pending_issued waiting)
  refine ⟨?_, by simp [follows.issued], told_refl⟩
  rw [d.registry_deregister_of_not_mem id absent, follows.registry]

theorem registers (follows : Follows written noted r d) (kept : d.Kept taken)
    (hooks : List ScriptedHook) :
    Follows written noted (hooks.foldl (fun r hook => (r.register hook).2) r)
        (hooks.foldl (fun d hook => (d.register hook).2) d) ∧
      (hooks.foldl (fun d hook => (d.register hook).2) d).Kept taken ∧
      (issuedIn (hooks.foldl (fun d hook => (d.register hook).2) d).events).length =
        (issuedIn d.events).length + hooks.length := by
  induction hooks generalizing r d with
  | nil => exact ⟨follows, kept, rfl⟩
  | cons hook left ih =>
    obtain ⟨after, still, length⟩ := ih (follows.register hook).2 (kept.register hook)
    exact ⟨after, still, length.trans (by simp [Nat.add_assoc, Nat.add_comm 1])⟩

theorem drop (follows : Follows written noted r d) (kept : d.Kept taken) {place : Nat}
    (known : place < (issuedIn d.events).length) :
    Follows written noted (r.drop place) (d.deregister ⟨place + 1⟩).2 := by
  rw [HookRehearsal.drop, follows.deregister?_eq kept, if_pos known]
  refine ⟨rfl, by simp [follows.issued], ?_⟩
  simpa [line?, HookRehearsal.entries] using
    follows.told.concat (.deregistered ⟨place + 1⟩ (d.deregister ⟨place + 1⟩).1)

theorem drops (follows : Follows written noted r d) (kept : d.Kept taken) (places : List Nat) :
    Follows written noted (places.foldl HookRehearsal.drop r)
      (((places.filter fun place => place < (issuedIn d.events).length).map
        fun place => HookId.mk (place + 1)).foldl (fun d id => (d.deregister id).2) d) := by
  induction places generalizing r d with
  | nil => exact follows
  | cons place left ih =>
    by_cases known : place < (issuedIn d.events).length
    · simpa [known] using ih (follows.drop kept known) (kept.deregister _)
    · -- A place that has no number is skipped by the rehearsal and left out by the script.
      have skipped : r.drop place = r := by
        rw [HookRehearsal.drop, follows.deregister?_eq kept, if_neg known]
      simpa [known, skipped] using ih follows kept

theorem run (follows : Follows written noted r d) {entry : HookId × ScriptedHook}
    (kept : d.Kept (entry :: taken)) :
    Follows written noted (r.run entry.2) (d.runHook ScriptedHook.behaviour entry) := by
  have started : Follows written noted { r with journal := entry.2.name :: r.journal }
      { d with events := d.events ++ [.ran entry.1 entry.2] } := by
    refine ⟨follows.registry, by simp [follows.issued], ?_⟩
    simpa [line?, HookRehearsal.entries] using follows.told.concat (.ran entry.1 entry.2)
  obtain ⟨registered, still, length⟩ := started.registers kept.ran entry.2.registers
  have last := registered.drops still entry.2.deregisters
  rw [length] at last
  rw [HookDiary.runHook, ScriptedHook.run_behaviour, HookRehearsal.run_eq]
  simpa [ScriptedHook.dropped] using last

theorem runs (follows : Follows written noted r d) (kept : d.Kept taken) :
    Follows written noted ((taken.map Prod.snd).foldl HookRehearsal.run r)
      (taken.foldl (HookDiary.runHook ScriptedHook.behaviour) d) := by
  induction taken generalizing r d with
  | nil => exact follows
  | cons entry left ih => exact ih (follows.run kept) (kept.ran.run _)

/-- A rehearsed firing answers the number of the hooks that run, and its journal tells the events
of the firing. -/
theorem fire (follows : Follows written noted r d) (kept : d.Kept []) :
    r.fire.1 = (d.fire ScriptedHook.behaviour).1 ∧
      Follows r.entries (d.events ++ [.fired]) r.fire.2 (d.fire ScriptedHook.behaviour).2 := by
  have started : Follows r.entries (d.events ++ [.fired])
      { r with registry := r.registry.drain.2 }
      { registry := d.registry.drain.2, events := d.events ++ [.fired] } :=
    ⟨by rw [follows.registry], by simp [follows.issued], told_refl⟩
  refine ⟨by simp [HookRehearsal.fire, HookDiary.fire, follows.registry], ?_⟩
  have ran := started.runs kept.fired
  simpa [HookRehearsal.fire, HookDiary.fire, HookRegistry.drain, follows.registry] using ran

end Follows

end

/-! ### Rehearsals from beginning to end -/

/-- Does what is asked. The hook at a place is the one that was given the next number. -/
def perform (r : HookRehearsal) : HookRequest ScriptedHook → HookRehearsal
  | .register hook => (r.register hook).2
  | .deregister ⟨0⟩ => r
  | .deregister ⟨place + 1⟩ => ((r.deregister? place).map Prod.snd).getD r
  | .fire => r.fire.2

/-- A rehearsal is in the state of a diary after the same requests. -/
theorem follows_play (requests : List (HookRequest ScriptedHook)) : ∃ written noted,
    Follows written noted (requests.foldl perform {})
      (HookDiary.play ScriptedHook.behaviour requests) := by
  induction requests using List.reverseRecOn with
  | nil => exact ⟨[], [], .empty⟩
  | append_singleton requests request ih =>
    obtain ⟨written, noted, follows⟩ := ih
    have kept := HookDiary.kept_play ScriptedHook.behaviour requests
    rw [HookDiary.play_concat, List.foldl_concat]
    match request with
    | .register hook => exact ⟨_, _, (follows.register hook).2⟩
    | .deregister ⟨0⟩ =>
      -- Numbers begin with 1, so this one has no place.
      exact ⟨_, _, follows.deregister_unknown kept (by simp [kept.mem_issued_iff_number])⟩
    | .deregister ⟨place + 1⟩ =>
      rw [perform, follows.deregister?_eq kept]
      split
      next known => exact ⟨_, _, follows.deregister _⟩
      next unknown =>
        refine ⟨_, _, follows.deregister_unknown kept ?_⟩
        rw [kept.mem_issued_iff_number]
        exact fun bounds => unknown (Nat.lt_of_succ_le bounds.2)
    | .fire => exact ⟨_, _, (follows.fire kept).2⟩

end HookRehearsal

end ContainerFixture
