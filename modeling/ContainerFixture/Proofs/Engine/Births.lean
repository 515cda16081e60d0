import ContainerFixture.Proofs.Engine.Presence

/-!
# Births of containers

What a history of answers says of the containers created in it: which were, what became of each, and
whether it runs. This is read off the answers alone, each creation with those that came after it.

## Main result

`tallies_after`: if no identifier was given twice, what a listener knows after a history is what the
births in it say.
-/

namespace ContainerFixture

/-- A container that was created, and what was exchanged since. -/
structure Birth where
  id : ContainerId
  params : Params
  later : List Exchange

namespace Exchange

def created? : Exchange → Option (ContainerId × Params)
  | ⟨.create params, .ok creation⟩ => some (creation.id, params)
  | _ => none

/-- Whether a container is gone by this exchange: it was removed, or it was stopped and removes
itself. -/
def ends (id : ContainerId) (params : Params) : Exchange → Bool
  | ⟨.remove other _, .ok ()⟩ => other = id
  | ⟨.stop other _, .ok ()⟩ => other = id && params.autoRemove
  | _ => false

/-- Whether a container was started or stopped by this exchange, if it was either. -/
def switch? (id : ContainerId) : Exchange → Option Bool
  | ⟨.start other, .ok ()⟩ => if other = id then some true else none
  | ⟨.stop other _, .ok ()⟩ => if other = id then some false else none
  | _ => none

end Exchange

namespace Exchange

/-- What the exchange leaves of a container that was there before. -/
def leaves (id : ContainerId) (exchange : Exchange) (seen : Presence) : Option Presence :=
  if exchange.ends id seen.params then none
  else some { seen with running := (exchange.switch? id).getD seen.running }

theorem learn_apply {known : Knowledge} {exchange : Exchange} {id : ContainerId}
    (other : ∀ params, exchange.created? ≠ some (id, params)) :
    exchange.learn known id = (known id).bind (exchange.leaves id) := by
  obtain ⟨request, answer⟩ := exchange
  cases answer with
  | error cause =>
    -- A failure teaches nothing, whatever was asked.
    cases request <;> exact (Option.bind_fun_some (known id)).symm
  | ok answered =>
    cases request with
    | create params =>
      have apart : id ≠ answered.id := by
        intro same
        exact other params (by simp [created?, same])
      rw [learn, Function.update_of_ne apart]
      exact (Option.bind_fun_some (known id)).symm
    | start target | stop target timeout | remove target force =>
      -- It changes what is known of one container, and leaves that of every other one.
      by_cases same : id = target
      · subst same
        cases seen : known id <;> simp [learn, leaves, ends, switch?, seen]
      · cases seen : known id <;> simp [learn, leaves, ends, switch?, seen,
          Function.update_of_ne same, Ne.symm same]
    | exec | copyTo | copyFrom | followLogs | portBindings =>
      exact (Option.bind_fun_some (known id)).symm

end Exchange

/-- The containers created in a history, in this order. -/
def births : List Exchange → List Birth
  | [] => []
  | exchange :: later =>
    match exchange.created? with
    | some (id, params) => ⟨id, params, later⟩ :: births later
    | none => births later

namespace Birth

def gone (birth : Birth) : Bool := birth.later.any (Exchange.ends birth.id birth.params)

/-- Whether the last that started or stopped the container was a start. -/
def started (birth : Birth) : Bool :=
  (birth.later.filterMap (Exchange.switch? birth.id)).getLast?.getD false

/-- The container as an engine should know it. -/
def presence (birth : Birth) : Option Presence :=
  if birth.gone then none else some ⟨birth.params, birth.started⟩

/-- The same container, after some more exchanges. -/
def extend (more : List Exchange) (birth : Birth) : Birth :=
  { birth with later := birth.later ++ more }

@[simp] theorem id_extend (more : List Exchange) (birth : Birth) :
    (birth.extend more).id = birth.id := rfl

theorem gone_extend (more : List Exchange) (birth : Birth) :
    (birth.extend more).gone = (birth.gone || more.any (Exchange.ends birth.id birth.params)) := by
  simp [gone, extend]

theorem started_extend (exchange : Exchange) (birth : Birth) :
    (birth.extend [exchange]).started = (exchange.switch? birth.id).getD birth.started := by
  simp only [started, extend, List.filterMap_append, List.filterMap_cons, List.filterMap_nil]
  cases exchange.switch? birth.id <;> simp

theorem presence_extend (exchange : Exchange) (birth : Birth) :
    (birth.extend [exchange]).presence = birth.presence.bind (exchange.leaves birth.id) := by
  rw [presence, gone_extend, started_extend, presence, List.any_cons, List.any_nil, Bool.or_false]
  cases birth.gone
  · rfl
  · rfl

end Birth

/-- The containers that a history leaves. -/
def living (history : List Exchange) : List Birth :=
  (births history).filter fun birth => !birth.gone

/-- The identifiers that were given out. -/
def issued (history : List Exchange) : List ContainerId := (births history).map Birth.id

theorem births_append (history more : List Exchange) :
    births (history ++ more) = (births history).map (Birth.extend more) ++ births more := by
  induction history with
  | nil => rfl
  | cons first rest ih =>
    rw [List.cons_append, births, births, ih]
    cases first.created? <;> rfl

theorem births_singleton (exchange : Exchange) : births [exchange] =
    (exchange.created?.map fun (id, params) => Birth.mk id params []).toList := by
  cases created : exchange.created? <;> simp [births, created]

theorem issued_concat (history : List Exchange) (exchange : Exchange) :
    issued (history ++ [exchange]) =
      issued history ++ (exchange.created?.map Prod.fst).toList := by
  rw [issued, births_append, births_singleton, List.map_append, List.map_map]
  cases exchange.created? <;> rfl

/-! ### What is known -/

/-- What is known is what the births say. -/
structure Tallies (history : List Exchange) (known : Knowledge) : Prop where
  born : ∀ birth ∈ births history, known birth.id = birth.presence
  unborn : ∀ id ∉ issued history, known id = none

theorem learn_created {known : Knowledge} {exchange : Exchange} {id : ContainerId} {params : Params}
    (created : exchange.created? = some (id, params)) :
    exchange.learn known id = some ⟨params, false⟩ := by
  obtain ⟨request, answer⟩ := exchange
  cases request <;> cases answer <;> cases created
  simp [Exchange.learn]

theorem Tallies.learn {history : List Exchange} {known : Knowledge} {exchange : Exchange}
    (tallies : Tallies history known)
    (fresh : ∀ id params, exchange.created? = some (id, params) → id ∉ issued history) :
    Tallies (history ++ [exchange]) (exchange.learn known) := by
  constructor
  · intro birth mem
    rw [births_append, births_singleton] at mem
    rcases List.mem_append.mp mem with old | new
    · -- The exchange does to an older container what it teaches of it.
      obtain ⟨before, known, rfl⟩ := List.mem_map.mp old
      have other (params : Params) : exchange.created? ≠ some (before.id, params) :=
        fun created => fresh _ _ created (List.mem_map_of_mem known)
      rw [Birth.id_extend, Exchange.learn_apply other, Birth.presence_extend, tallies.born _ known]
    · rcases created : exchange.created? with _ | ⟨id, params⟩
      · simp [created] at new
      · -- Nothing has happened yet to a container that was created just now.
        obtain rfl : birth = ⟨id, params, []⟩ := by simpa [created] using new
        exact learn_created created
  · intro id unborn
    rw [issued_concat, List.mem_append, not_or] at unborn
    have other (params : Params) : exchange.created? ≠ some (id, params) :=
      fun created => unborn.2 (by simp [created])
    rw [Exchange.learn_apply other, tallies.unborn id unborn.1]
    rfl

/-- If no identifier was given twice, what a listener knows after a history is what the births in
it say. -/
theorem tallies_after {history : List Exchange} (distinct : (issued history).Nodup) :
    Tallies history (Knowledge.after (fun _ => none) history) := by
  induction history using List.reverseRecOn with
  | nil => exact ⟨fun birth mem => absurd mem List.not_mem_nil, fun id _ => rfl⟩
  | append_singleton history exchange ih =>
    rw [issued_concat] at distinct
    obtain ⟨earlier, -, apart⟩ := List.nodup_append.mp distinct
    rw [Knowledge.after_append]
    refine (ih earlier).learn ?_
    intro id params created issued
    exact apart id issued id (by simp [created]) rfl

theorem Tallies.eq_some_iff {history : List Exchange} {known : Knowledge}
    (tallies : Tallies history known) {id : ContainerId} {seen : Presence} :
    known id = some seen ↔
      ∃ birth ∈ living history, birth.id = id ∧ seen = ⟨birth.params, birth.started⟩ := by
  constructor
  · intro there
    have given : id ∈ issued history := by
      by_contra unborn
      simp [tallies.unborn id unborn] at there
    obtain ⟨birth, mem, rfl⟩ := List.mem_map.mp given
    rw [tallies.born birth mem, Birth.presence] at there
    split at there
    · cases there
    · next remains =>
      exact ⟨birth, List.mem_filter.mpr ⟨mem, by simpa using remains⟩, rfl,
        (Option.some.inj there).symm⟩
  · rintro ⟨birth, mem, rfl, rfl⟩
    obtain ⟨mem, remains⟩ := List.mem_filter.mp mem
    rw [tallies.born birth mem, Birth.presence, if_neg (by simpa using remains)]

theorem gone_append {earlier : List Exchange} {birth : Birth} (mem : birth ∈ births earlier)
    (gone : birth.gone = true) (later : List Exchange) :
    birth.extend later ∈ births (earlier ++ later) ∧ (birth.extend later).gone = true := by
  constructor
  · rw [births_append]
    exact List.mem_append_left _ (List.mem_map_of_mem mem)
  · -- What did away with it is still among the later exchanges.
    rw [Birth.gone_extend, gone, Bool.true_or]

end ContainerFixture
