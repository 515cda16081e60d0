import ContainerFixture.Proofs.Engine.Births
import ContainerFixture.Proofs.Engine.Prompted
import ContainerFixture.Text.Numeral
import ContainerFixture.Text.Split

/-!
# The table of the engine in memory

Any calls of the engine in memory, with tests acting on it in between in any way they can. What it
knows and answers is what its own answers so far imply, as long as no two of the texts that it
hashed have one digest.

## Main result

`play_faithful`: identifiers differ, a container is known until it is gone and never again, and what
a call answers follows from that.

## Proof strategy

The text hashed for a container holds how many there were before (`idText_inj`), so with no
collision all identifiers differ. Then `tallies_after` says what the engine knows, since an answer
teaches a listener what it changes in the engine (`perform_learned`), scripted or not.
-/

namespace ContainerFixture

open Text

/-- A call of the engine, or what a test does to it. -/
inductive Deed where
  | call (request : EngineCall)
  | prompt (cue : Cue)
  -- An operation is scripted to find nothing.
  | lose (operation : EngineOperation)

def Deed.act (r : Recorded MemoryEngine) : Deed → Recorded MemoryEngine
  | .call request => (Engine.perform request r).2
  | .prompt cue => { r with engine := cue.apply r.engine }
  | .lose operation => { r with engine := r.engine.fail operation .notFound }

/-- A new engine after some deeds, with its calls and answers on record. -/
def play (deeds : List Deed) : Recorded MemoryEngine := deeds.foldl Deed.act { engine := {} }

namespace MemoryEngine

variable {e : MemoryEngine}

/-! ### Identifiers -/

/-- What is hashed for the container created as number `number`. -/
def idText (number : Nat) (image : Image) : String := s!"mock-container:{number}:{image.text}"

theorem idFor_eq (number : Nat) (image : Image) :
    idFor number image = ⟨Blake3.textDigest (idText number image)⟩ := rfl

theorem toList_idText (number : Nat) (image : Image) : (idText number image).toList =
    "mock-container:".toList ++ (number.repr.toList ++ ':' :: image.text.toList) := by
  have parts : idText number image =
      "mock-container:" ++ number.repr ++ ":" ++ image.text := rfl
  rw [parts, String.toList_append, String.toList_append, String.toList_append, List.append_assoc,
    List.append_assoc]
  rfl

theorem idText_inj {number number' : Nat} {image image' : Image}
    (same : idText number image = idText number' image') : number = number' := by
  -- The numeral ends at the first colon behind it, as no digit is a colon.
  have noColon (n : Nat) : ':' ∉ n.repr.toList := by
    intro mem
    have digit := isDigit_of_mem_repr mem
    revert digit
    decide
  have texts := congrArg String.toList same
  rw [toList_idText, toList_idText] at texts
  have cut := append_cons_inj_of_first (noColon number) (noColon number')
    (List.append_cancel_left texts)
  exact repr_inj.mp (String.toList_inj.mp cut.1)

/-! ### One call -/

/-- A call is on the list of calls before anything else happens. -/
def entered (request : EngineCall) (e : MemoryEngine) : MemoryEngine :=
  { e with called := request :: e.called }

/-- No failure is scripted for an operation. -/
def Unscripted (e : MemoryEngine) (operation : EngineOperation) : Prop :=
  e.failures.lookup operation = none

theorem perform_unscripted {request : EngineCall} (unscripted : e.Unscripted request.operation) :
    perform request e = serve request (e.entered request) := by
  have accepted : enter request e = (.ok (), e.entered request) := by
    rw [enter, unscripted]
    rfl
  exact Action.bind_of_ok accepted

theorem perform_scripted {request : EngineCall} (scripted : ¬ e.Unscripted request.operation) :
    ∃ cause, perform request e = (.error cause, e.entered request) := by
  obtain ⟨failure, found⟩ := Option.ne_none_iff_exists'.mp scripted
  have failed : ∃ cause, enter request e = (.error cause, e.entered request) := by
    simp only [enter, found]
    cases failure with
    | notFound => exact ⟨_, rfl⟩
    | refused reason => exact ⟨_, rfl⟩
  obtain ⟨cause, failed⟩ := failed
  exact ⟨cause, Action.bind_of_error failed⟩

theorem learn_error (known : Knowledge) (request : EngineCall) (cause : EngineError) :
    Exchange.learn known ⟨request, .error cause⟩ = known := by
  cases request <;> rfl

theorem created?_error (request : EngineCall) (cause : EngineError) :
    Exchange.created? ⟨request, .error cause⟩ = none := by
  cases request <;> rfl

/-- Any answer, scripted or not, teaches a listener what it changes in the table. -/
theorem perform_learned (request : EngineCall) (e : MemoryEngine) :
    (perform request e).2.presence =
      Exchange.learn e.presence ⟨request, (perform request e).1⟩ := by
  by_cases unscripted : e.Unscripted request.operation
  · rw [perform_unscripted unscripted]
    exact (serve_told request (e.entered request)).1
  · obtain ⟨cause, failed⟩ := perform_scripted unscripted
    rw [failed, learn_error]
    rfl

/-! ### The table -/

/-- No identifier stands twice in the table. -/
def Keyed (e : MemoryEngine) : Prop := (e.table.map Prod.fst).Nodup

theorem keyed_erase (id : ContainerId) (keyed : e.Keyed) : (e.erase id).Keyed :=
  keyed.sublist (List.filter_sublist.map Prod.fst)

theorem keyed_put (id : ContainerId) (container : MemoryContainer) (keyed : e.Keyed) :
    (e.put id container).Keyed := by
  have others : id ∉ (e.erase id).table.map Prod.fst := by simp [erase]
  exact List.nodup_cons.mpr ⟨others, keyed_erase id keyed⟩

theorem serve_keyed {request : EngineCall} (other : request.operation ≠ .create) (number : Nat) :
    (serve request).Keeps fun e => e.created = number ∧ e.Keyed := by
  cases request with
  | create => exact absurd rfl other
  | start id =>
    refine (find_keeps id).bind fun container => ?_
    intro e before
    exact ⟨before.1, keyed_put id _ before.2⟩
  | stop id timeout =>
    refine (find_keeps id).bind fun container => ?_
    intro e before
    by_cases vanishes : container.params.autoRemove = true
    · simpa [Action.change, vanishes] using ⟨before.1, keyed_erase id before.2⟩
    · simpa [Action.change, vanishes] using ⟨before.1, keyed_put id _ before.2⟩
  | remove id force =>
    refine (find_keeps id).bind fun container => ?_
    split
    · exact .fail _
    · intro e before
      exact ⟨before.1, keyed_erase id before.2⟩
  | exec | copyTo | copyFrom | followLogs | portBindings =>
    exact serve_minor_keeps rfl fun _ _ before => before

theorem created?_eq_none {request : EngineCall} (other : request.operation ≠ .create)
    (answer : Except EngineError request.Answer) :
    Exchange.created? ⟨request, answer⟩ = none := by
  cases request with
  | create => exact absurd rfl other
  | start | stop | remove | exec | copyTo | copyFrom | followLogs | portBindings => rfl

/-- What an exchange says of the number of containers before it and after it. -/
def Counts (before after : Nat) (exchange : Exchange) : Prop :=
  match exchange.created? with
  | some (id, params) => after = before + 1 ∧ id = idFor after params.image
  | none => after = before

theorem perform_counts (request : EngineCall) (keyed : e.Keyed) :
    (perform request e).2.Keyed ∧
      Counts e.created (perform request e).2.created ⟨request, (perform request e).1⟩ := by
  by_cases unscripted : e.Unscripted request.operation
  · rw [perform_unscripted unscripted]
    by_cases creation : request.operation = .create
    · -- The number goes up first, and the identifier is made from the new one.
      cases request <;> cases creation
      exact ⟨keyed_put _ _ keyed, rfl, rfl⟩
    · obtain ⟨same, keyed⟩ := serve_keyed creation e.created (e.entered request) ⟨rfl, keyed⟩
      rw [Counts, created?_eq_none creation]
      exact ⟨keyed, same⟩
  · obtain ⟨cause, failed⟩ := perform_scripted unscripted
    rw [failed, Counts, created?_error]
    exact ⟨keyed, rfl⟩

/-! ### Answers -/

theorem serve_unknown {request : EngineCall} {id : ContainerId}
    (addressed : request.container? = some id) (unknown : e.container? id = none) :
    (serve request e).1 = .error (.notFound s!"no such container: {id.text}") := by
  have missing := find_unknown unknown
  cases request with
  | create => cases addressed
  | start | stop | remove | exec | copyTo | copyFrom | followLogs | portBindings =>
    -- Each of them looks the container up before anything else.
    cases addressed
    exact congrArg Prod.fst (Action.bind_of_error missing)

theorem start_ok_iff (id : ContainerId) (e : MemoryEngine) :
    (start id e).1 = .ok () ↔ ∃ container, e.container? id = some container := by
  rw [start, find_bind]
  cases e.container? id with
  | none => simp
  | some container => simp [Action.change]

theorem stop_ok_iff (id : ContainerId) (e : MemoryEngine) :
    (stop id e).1 = .ok () ↔ ∃ container, e.container? id = some container := by
  rw [stop, find_bind]
  cases e.container? id with
  | none => simp
  | some container => simp [Action.change]

theorem remove_ok_iff (id : ContainerId) (force : Bool) (e : MemoryEngine) :
    (remove id force e).1 = .ok () ↔
      ∃ container, e.container? id = some container ∧
        (force = true ∨ container.running = false) := by
  rw [remove, find_bind]
  cases e.container? id with
  | none => simp
  | some container =>
    cases running : container.running <;> cases force <;>
      simp [running, Action.fail, Action.change]

theorem remove_running {id : ContainerId} {container : MemoryContainer}
    (known : e.container? id = some container) (running : container.running = true) :
    remove id false e =
      (.error (.refused s!"cannot remove running container {id.text} without force"), e) := by
  rw [remove, find_bind, known]
  simp [running, Action.fail]

theorem exec_isOk_iff (id : ContainerId) (command : List String) (e : MemoryEngine) :
    (exec id command e).1.isOk = true ↔
      ∃ container, e.container? id = some container ∧ container.running = true := by
  rw [exec, find_bind]
  cases e.container? id with
  | none => simp [Except.isOk, Except.toBool]
  | some container =>
    cases running : container.running with
    | false => simp [running, Action.fail, Except.isOk, Except.toBool]
    | true => simp [running, Action.read, Except.isOk, Except.toBool]

theorem mem_table_iff {id : ContainerId} :
    id ∈ e.table.map Prod.fst ↔ (e.container? id).isSome := by
  rw [container?]
  induction e.table with
  | nil => simp
  | cons entry rest ih =>
    rw [List.map_cons, List.mem_cons, ih, List.lookup_cons]
    by_cases here : id = entry.1
    · simp [here]
    · have differs : (id == entry.1) = false := by simpa using here
      simp [here, differs]

end MemoryEngine

open MemoryEngine

/-! ### Any deeds -/

/-- What is on record accounts for the table. -/
structure Recorded.Kept (r : Recorded MemoryEngine) : Prop where
  keyed : r.engine.Keyed
  created : r.engine.created = (births r.exchanges).length
  numbered : ∀ place birth, (births r.exchanges)[place]? = some birth →
    birth.id = idFor (place + 1) birth.params.image
  learned : r.engine.presence = Knowledge.after (fun _ => none) r.exchanges

theorem Recorded.Kept.births_grow {r : Recorded MemoryEngine} (kept : r.Kept) {after : Nat}
    {latest : Exchange} (counts : Counts r.engine.created after latest) :
    after = (births (r.exchanges ++ [latest])).length ∧
      ∀ place birth, (births (r.exchanges ++ [latest]))[place]? = some birth →
        birth.id = idFor (place + 1) birth.params.image := by
  have old (place : Nat) (birth : Birth)
      (found : ((births r.exchanges).map (Birth.extend [latest]))[place]? = some birth) :
      birth.id = idFor (place + 1) birth.params.image := by
    rw [List.getElem?_map] at found
    obtain ⟨before, there, rfl⟩ := Option.map_eq_some_iff.mp found
    exact kept.numbered place before there
  rw [births_append, births_singleton]
  rw [Counts] at counts
  rcases created : latest.created? with _ | ⟨id, params⟩ <;> rw [created] at counts
  · refine ⟨by simp [counts, kept.created], ?_⟩
    simpa only [Option.map_none, Option.toList_none, List.append_nil] using old
  · obtain ⟨more, given⟩ := counts
    rw [kept.created] at more
    refine ⟨by simp [more], ?_⟩
    intro place birth found
    rw [List.getElem?_append] at found
    split at found
    · exact old place birth found
    · -- The newest stands right behind the others, whose number its own follows.
      next behind =>
      simp only [Option.map_some, Option.toList_some, List.getElem?_singleton,
        Option.ite_none_right_eq_some, Option.some.injEq, List.length_map] at found behind
      obtain ⟨last, rfl⟩ := found
      have number : place + 1 = after := by omega
      rw [number]
      exact given

theorem Recorded.Kept.call {r : Recorded MemoryEngine} (kept : r.Kept) (request : EngineCall) :
    Recorded.Kept (Engine.perform request r).2 := by
  -- Here it does not matter whether the call succeeds, as births are read off the answer too.
  obtain ⟨keyed, counts⟩ := perform_counts request kept.keyed
  obtain ⟨created, numbered⟩ := kept.births_grow counts
  refine ⟨keyed, created, numbered, ?_⟩
  have exchanges : (Engine.perform request r).2.exchanges =
      r.exchanges ++ [⟨request, (perform request r.engine).1⟩] := rfl
  rw [exchanges, Knowledge.after_append, ← kept.learned]
  exact perform_learned request r.engine

theorem Recorded.Kept.act {r : Recorded MemoryEngine} (kept : r.Kept) (deed : Deed) :
    (deed.act r).Kept := by
  cases deed with
  | call request => exact kept.call request
  | lose operation => exact ⟨kept.keyed, kept.created, kept.numbered, kept.learned⟩
  | prompt cue =>
    -- No cue touches the table.
    cases cue <;> exact ⟨kept.keyed, kept.created, kept.numbered, kept.learned⟩

theorem play_kept (deeds : List Deed) : (play deeds).Kept := by
  induction deeds using List.reverseRecOn with
  | nil => exact ⟨List.nodup_nil, rfl, fun _ _ found => (by cases found), rfl⟩
  | append_singleton deeds deed ih =>
    rw [play, List.foldl_append]
    exact ih.act deed

/-! ### Main result -/

/-- The images of the containers that were created. -/
def images (history : List Exchange) : List Image :=
  (births history).map fun birth => birth.params.image

/-- The texts that were hashed for identifiers. -/
def hashed (history : List Exchange) : List String :=
  (images history).zipIdx.map fun (image, place) => idText (place + 1) image

/-- No two of the texts that were hashed have one digest. -/
def CollisionFree (history : List Exchange) : Prop :=
  ∀ text ∈ hashed history, ∀ text' ∈ hashed history,
    Blake3.textDigest text = Blake3.textDigest text' → text = text'

/-- An identifier that an engine does not know: all calls say so that are not scripted to fail. -/
structure Denies (e : MemoryEngine) (id : ContainerId) : Prop where
  unknown : e.container? id = none
  not_found : ∀ request : EngineCall, e.Unscripted request.operation →
    request.container? = some id →
      (perform request e).1 = .error (.notFound s!"no such container: {id.text}")

/-- The engine as a table of the containers that were created and are not gone. -/
structure Faithful (history : List Exchange) (e : MemoryEngine) : Prop where
  distinct : (issued history).Nodup
  -- What is known is what was created and is not gone, by as many entries.
  known_iff : ∀ id, (e.container? id).isSome ↔ ∃ birth ∈ living history, birth.id = id
  live : e.table.length = (living history).length
  -- What was gone at any time before is denied, and so is what was never given out.
  gone : ∀ earlier later, history = earlier ++ later → ∀ birth ∈ births earlier,
    birth.gone = true → Denies e birth.id
  unissued : ∀ id ∉ issued history, Denies e id
  -- The calls that succeed.
  start_iff : e.Unscripted .start → ∀ id,
    (perform (.start id) e).1 = .ok () ↔ ∃ birth ∈ living history, birth.id = id
  stop_iff : e.Unscripted .stop → ∀ id timeout,
    (perform (.stop id timeout) e).1 = .ok () ↔ ∃ birth ∈ living history, birth.id = id
  remove_iff : e.Unscripted .remove → ∀ id force, (perform (.remove id force) e).1 = .ok () ↔
    ∃ birth ∈ living history, birth.id = id ∧ (force = true ∨ birth.started = false)
  exec_iff : e.Unscripted .exec → ∀ id env command,
    (perform (.exec id env command) e).1.isOk = true ↔
      ∃ birth ∈ living history, birth.id = id ∧ birth.started = true
  -- A container that runs is kept, unless its removal is forced.
  kept : e.Unscripted .remove → ∀ birth ∈ living history, birth.started = true →
    (∃ reason, (perform (.remove birth.id false) e).1 = .error (.refused reason)) ∧
      (perform (.remove birth.id false) e).2.table = e.table

theorem MemoryEngine.denies {e : MemoryEngine} {id : ContainerId}
    (unknown : e.container? id = none) : Denies e id where
  unknown := unknown
  not_found request unscripted addressed := by
    rw [perform_unscripted unscripted]
    exact serve_unknown addressed unknown

namespace Recorded.Kept

variable {r : Recorded MemoryEngine}

theorem distinct (kept : r.Kept) (free : CollisionFree r.exchanges) :
    (issued r.exchanges).Nodup := by
  rw [issued, List.Nodup, List.pairwise_map, List.pairwise_iff_getElem]
  intro first second inside inside' before same
  have one := List.getElem?_eq_getElem inside
  have other := List.getElem?_eq_getElem inside'
  rw [kept.numbered _ _ one, kept.numbered _ _ other, idFor_eq, idFor_eq] at same
  have mem {place : Nat} {birth : Birth} (found : (births r.exchanges)[place]? = some birth) :
      idText (place + 1) birth.params.image ∈ hashed r.exchanges := by
    have image : (images r.exchanges)[place]? = some birth.params.image := by
      rw [images, List.getElem?_map, found]
      rfl
    exact List.mem_map.mpr ⟨(_, place), List.mem_zipIdx_iff_getElem?.mpr image, rfl⟩
  -- One digest, so one text, so one number.
  have texts := free _ (mem one) _ (mem other) (congrArg ContainerId.text same)
  have numbers := idText_inj texts
  omega

theorem tallies (kept : r.Kept) (free : CollisionFree r.exchanges) :
    Tallies r.exchanges r.engine.presence := by
  rw [kept.learned]
  exact tallies_after (kept.distinct free)

/-- The containers in the table are the living ones, and each runs if it should. -/
theorem living_iff (kept : r.Kept) (free : CollisionFree r.exchanges) (id : ContainerId)
    (running : Bool → Prop) :
    (∃ container, r.engine.container? id = some container ∧ running container.running) ↔
      ∃ birth ∈ living r.exchanges, birth.id = id ∧ running birth.started := by
  have known (seen : Presence) : r.engine.presence id = some seen ↔
      ∃ birth ∈ living r.exchanges, birth.id = id ∧ seen = ⟨birth.params, birth.started⟩ :=
    (kept.tallies free).eq_some_iff
  constructor
  · rintro ⟨container, there, runs⟩
    obtain ⟨birth, mem, same, seen⟩ := (known ⟨container.params, container.running⟩).mp
      (by simp [presence, there])
    obtain ⟨-, alike⟩ := Presence.mk.inj seen
    exact ⟨birth, mem, same, alike ▸ runs⟩
  · rintro ⟨birth, mem, same, runs⟩
    have there := (known ⟨birth.params, birth.started⟩).mpr ⟨birth, mem, same, rfl⟩
    obtain ⟨container, found, seen⟩ := Option.map_eq_some_iff.mp there
    obtain ⟨-, alike⟩ := Presence.mk.inj seen
    exact ⟨container, found, alike ▸ runs⟩

theorem known_iff (kept : r.Kept) (free : CollisionFree r.exchanges) (id : ContainerId) :
    (∃ container, r.engine.container? id = some container) ↔
      ∃ birth ∈ living r.exchanges, birth.id = id := by
  simpa using kept.living_iff free id fun _ => True

theorem length_table (kept : r.Kept) (free : CollisionFree r.exchanges) :
    r.engine.table.length = (living r.exchanges).length := by
  have once : ((living r.exchanges).map Birth.id).Nodup :=
    (kept.distinct free).sublist (List.filter_sublist.map Birth.id)
  -- Two lists without repetition that have the same members are as long.
  have entries : (r.engine.table.map Prod.fst).Perm ((living r.exchanges).map Birth.id) := by
    refine (List.perm_ext_iff_of_nodup kept.keyed once).mpr ?_
    intro id
    rw [mem_table_iff, Option.isSome_iff_exists, kept.known_iff free, List.mem_map]
  simpa using entries.length_eq

theorem faithful (kept : r.Kept) (free : CollisionFree r.exchanges) :
    Faithful r.exchanges r.engine where
  distinct := kept.distinct free
  known_iff id := by
    rw [Option.isSome_iff_exists]
    exact kept.known_iff free id
  live := kept.length_table free
  gone earlier later history birth mem gone := by
    obtain ⟨still, gone⟩ := gone_append mem gone later
    rw [← history] at still
    have missing := (kept.tallies free).born _ still
    rw [Birth.presence, if_pos gone] at missing
    exact denies (presence_eq_none_iff.mp missing)
  unissued id unborn := denies (presence_eq_none_iff.mp ((kept.tallies free).unborn id unborn))
  start_iff unscripted id := by
    rw [perform_unscripted unscripted, ← kept.known_iff free]
    exact start_ok_iff id _
  stop_iff unscripted id timeout := by
    rw [perform_unscripted unscripted, ← kept.known_iff free]
    exact stop_ok_iff id _
  remove_iff unscripted id force := by
    rw [perform_unscripted unscripted,
      ← kept.living_iff free id fun running => force = true ∨ running = false]
    exact remove_ok_iff id force _
  exec_iff unscripted id env command := by
    rw [perform_unscripted unscripted, ← kept.living_iff free id fun running => running = true]
    exact exec_isOk_iff id command _
  kept unscripted birth mem started := by
    obtain ⟨container, there, runs⟩ :=
      (kept.living_iff free birth.id fun running => running = true).mpr ⟨birth, mem, rfl, started⟩
    have refused : remove birth.id false (r.engine.entered (.remove birth.id false)) = _ :=
      remove_running there runs
    rw [perform_unscripted unscripted]
    refine ⟨⟨_, congrArg Prod.fst refused⟩, ?_⟩
    exact congrArg (fun outcome => outcome.2.table) refused

end Recorded.Kept

/-- Whatever is done to a new engine, it is a faithful table of the containers that it created, as
long as no two texts that it hashed collide. -/
theorem play_faithful (deeds : List Deed) (free : CollisionFree (play deeds).exchanges) :
    Faithful (play deeds).exchanges (play deeds).engine :=
  (play_kept deeds).faithful free

/-- Of two containers of one image, one is started, kept when its removal is not forced, and gone
once it stops. -/
theorem play_faithful_of_pair :
    let params : Params := .ofImage ⟨none, none, "redis", some (.tag "7")⟩
    let first := idFor 1 params.image
    let deeds : List Deed := [.call (.create params), .call (.create params), .call (.start first),
      .call (.remove first false), .call (.stop first ⟨10⟩)]
    CollisionFree (play deeds).exchanges ∧
      (living (play deeds).exchanges).length = 1 ∧
      Faithful (play deeds).exchanges (play deeds).engine := by
  intro params first deeds
  have created : images (play deeds).exchanges = [params.image, params.image] := by decide +kernel
  have texts : hashed (play deeds).exchanges =
      [idText 1 params.image, idText 2 params.image] := by
    rw [hashed, created]
    rfl
  have apart : Blake3.textDigest (idText 1 params.image) ≠
      Blake3.textDigest (idText 2 params.image) := by decide +kernel
  have free : CollisionFree (play deeds).exchanges := by
    intro text mem text' mem' same
    simp only [texts, List.mem_cons, List.not_mem_nil, or_false] at mem mem'
    rcases mem with rfl | rfl <;> rcases mem' with rfl | rfl
    · rfl
    · exact absurd same apart
    · exact absurd same.symm apart
    · rfl
  exact ⟨free, by decide +kernel, play_faithful deeds free⟩

end ContainerFixture
