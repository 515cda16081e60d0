import ContainerFixture.Manifest.Reader
import ContainerFixture.Proofs.Document.Records

/-!
# Keys that no manifest has

The tables of a manifest are read as records. A key that the record does not have is refused in the
root, in the container, in its ports and in its mounts, however deep the table lies and whatever
else stands in the document. The tables of actions are the exception: a key that the action does not
have is read past, and what it was meant to set keeps its default
(`read_of_unknown_keys`, `misspelt_timeout_read_past`).
-/

namespace ContainerFixture

open Document

/-! ### Documents compared -/

namespace Document.Value

mutual

/-- Whether two values are seen to be one, which numbers in floating point never are: their equality
is not decided. -/
def same : Value → Value → Bool
  | null, null => true
  | flag a, flag b => a = b
  | integer m, integer n => m = n
  | text s, text t => s = t
  | moment s, moment t => s = t
  | list items, list items' => sameItems items items'
  | rows tables, rows tables' => sameItems tables tables'
  | table entries, table entries' => sameEntries entries entries'
  | _, _ => false

def sameItems : List Value → List Value → Bool
  | [], [] => true
  | v :: vs, w :: ws => same v w && sameItems vs ws
  | _, _ => false

def sameEntries : List (String × Value) → List (String × Value) → Bool
  | [], [] => true
  | (key, v) :: entries, (key', w) :: entries' =>
    key = key' && same v w && sameEntries entries entries'
  | _, _ => false

end

mutual

theorem eq_of_same : ∀ {v w : Value}, v.same w → v = w
  | null, w, alike => by cases w <;> simp_all [same]
  | flag a, w, alike => by cases w <;> simp_all [same]
  | integer n, w, alike => by cases w <;> simp_all [same]
  | real x, w, alike => by cases w <;> simp_all [same]
  | text s, w, alike => by cases w <;> simp_all [same]
  | moment s, w, alike => by cases w <;> simp_all [same]
  | list items, w, alike => by
    cases w <;> simp only [same, Bool.false_eq_true] at alike
    rw [eq_of_sameItems alike]
  | rows tables, w, alike => by
    cases w <;> simp only [same, Bool.false_eq_true] at alike
    rw [eq_of_sameItems alike]
  | table entries, w, alike => by
    cases w <;> simp only [same, Bool.false_eq_true] at alike
    rw [eq_of_sameEntries alike]

theorem eq_of_sameItems : ∀ {vs ws : List Value}, sameItems vs ws → vs = ws
  | [], ws, alike => by cases ws <;> simp_all [sameItems]
  | v :: vs, ws, alike => by
    cases ws with
    | nil => simp [sameItems] at alike
    | cons w ws =>
      simp only [sameItems, Bool.and_eq_true] at alike
      rw [eq_of_same alike.1, eq_of_sameItems alike.2]

theorem eq_of_sameEntries : ∀ {entries entries' : List (String × Value)},
    sameEntries entries entries' → entries = entries'
  | [], entries', alike => by cases entries' <;> simp_all [sameEntries]
  | (key, v) :: entries, entries', alike => by
    cases entries' with
    | nil => simp [sameEntries] at alike
    | cons entry entries' =>
      simp only [sameEntries, Bool.and_eq_true, decide_eq_true_eq] at alike
      obtain ⟨⟨rfl, head⟩, tail⟩ := alike
      rw [eq_of_same head, eq_of_sameEntries tail]

end

end Document.Value

/-- What a source is read as, found by running the reader and comparing. -/
theorem Toml.read?_eq_some {source : String} {document : Value}
    (alike : (Toml.read? source).any document.same) : Toml.read? source = some document := by
  cases read : Toml.read? source with
  | none => simp [read] at alike
  | some v =>
    rw [read] at alike
    rw [Value.eq_of_same alike]

namespace Manifest

/-! ### The tables of a document -/

/-- A table of the document that is read as a record of this shape: the root, the container, a port
or a mount. -/
inductive RecordTable (document : Value) : Shape → Entries → Prop
  | root {entries} (table : document = .table entries) : RecordTable document shape entries
  | container {entries} (held : shape.Holds document "container" (.table entries)) :
      RecordTable document ContainerSection.shape entries
  | port {outer ports items entries} (held : shape.Holds document "container" outer)
      (inner : ContainerSection.shape.Holds outer "ports" ports)
      (listed : ports.items? = some items) (mem : .table entries ∈ items) :
      RecordTable document PortEntry.shape entries
  | mount {outer mounts items entries} (held : shape.Holds document "container" outer)
      (inner : ContainerSection.shape.Holds outer "mounts" mounts)
      (listed : mounts.items? = some items) (mem : .table entries ∈ items) :
      RecordTable document MountEntry.shape entries

/-- The actions that precede the start, each with the fields that stand beside its name. -/
def preStartKinds : List (String × Shape) := [("copy", PreStartAction.copyShape)]

/-- The actions that follow the start. -/
def postStartKinds : List (String × Shape) :=
  [("await-log", PostStartAction.awaitLogShape), ("exec", PostStartAction.execShape),
    ("copy-out", PostStartAction.copyOutShape)]

/-- The fields of the action that a table names. -/
def fieldsOf? (kinds : List (String × Shape)) (entries : Entries) : Option Shape :=
  match entries.lookup actionKey with
  | some (.text kind) => kinds.lookup kind
  | _ => none

/-- A table of the document that is read as an action with these fields. -/
inductive ActionTable (document : Value) : Shape → Entries → Prop
  | preStart {actions items entries fields} (held : shape.Holds document "pre_start" actions)
      (listed : actions.items? = some items) (mem : .table entries ∈ items)
      (known : fieldsOf? preStartKinds entries = some fields) : ActionTable document fields entries
  | postStart {actions items entries fields} (held : shape.Holds document "post_start" actions)
      (listed : actions.items? = some items) (mem : .table entries ∈ items)
      (known : fieldsOf? postStartKinds entries = some fields) : ActionTable document fields entries

/-- The keys of an action: the one that names its kind, and those of its fields. -/
def actionKeys (fields : Shape) : List String := actionKey :: fields.names

/-- A table of the document with the keys that it is declared to have. -/
inductive SchemaTable (document : Value) : List String → Entries → Prop
  | record {shape entries} (table : RecordTable document shape entries) :
      SchemaTable document shape.names entries
  | action {fields entries} (table : ActionTable document fields entries) :
      SchemaTable document (actionKeys fields) entries

/-! ### Records refuse what they do not know -/

theorem shape_distinct : shape.names.Nodup := by decide

theorem containerShape_distinct : ContainerSection.shape.names.Nodup := by decide

/-- When a manifest was read, so was every table in it that is a record. -/
theorem RecordTable.slots {document : Value} {d : Dialect} {manifest : Manifest}
    (done : decode d document = .ok manifest) {record : Shape} {entries : Entries}
    (table : RecordTable document record entries) :
    record.closed = true ∧ ∃ slots, record.slots d (.table entries) = .ok slots := by
  obtain ⟨slots, read⟩ : ∃ slots, shape.slots d document = .ok slots := Shape.slots_of_read done
  -- the way down: the root fits, so the container in it fits, so the lists in the container do
  have containerRead {inner : Value} (held : shape.Holds document "container" inner) :
      ∃ slots, ContainerSection.shape.slots d inner = .ok slots := by
    obtain ⟨_, here⟩ :=
      held.read shape_distinct
        (show field "container" ContainerSection.decode ∈ shape.fields by simp [shape]) read
    exact Shape.slots_of_read here
  cases table with
  | root table =>
    subst table
    exact ⟨rfl, slots, read⟩
  | container held => exact ⟨rfl, containerRead held⟩
  | port held inner listed mem =>
    obtain ⟨_, here⟩ := containerRead held
    obtain ⟨_, readPort⟩ := inner.readItem containerShape_distinct
      (show field "ports" (.listOf PortEntry.decode) ∈ ContainerSection.shape.fields by
        simp [ContainerSection.shape]) here listed mem
    exact ⟨rfl, Shape.slots_of_read readPort⟩
  | mount held inner listed mem =>
    obtain ⟨_, here⟩ := containerRead held
    obtain ⟨_, readMount⟩ := inner.readItem containerShape_distinct
      (show field "mounts" (.listOf MountEntry.decode) ∈ ContainerSection.shape.fields by
        simp [ContainerSection.shape]) here listed mem
    exact ⟨rfl, Shape.slots_of_read readMount⟩

theorem RecordTable.refused {document : Value} {record : Shape} {entries : Entries}
    (table : RecordTable document record entries)
    (unknown : ∃ entry ∈ entries, entry.1 ∉ record.names) (d : Dialect) :
    ∃ cause, decode d document = .error cause := by
  cases done : decode d document with
  | error cause => exact ⟨cause, rfl⟩
  | ok manifest =>
    obtain ⟨closed, slots, read⟩ := table.slots done
    obtain ⟨entry, mem, undeclared⟩ := unknown
    exact absurd (Shape.declared_of_slots closed read entry mem) undeclared

/-! ### Actions read past what they do not know -/

/-- The action without the keys that its kind does not have. -/
def knownOnly (kinds : List (String × Shape)) : Value → Value
  | .table entries =>
    match fieldsOf? kinds entries with
    | some fields => .table (entries.filter fun entry => entry.1 ∈ actionKeys fields)
    | none => .table entries
  | v => v

/-- The value of a key of the root, with the actions in it rid of the keys that they do not have. -/
def knownActionsAt (key : String) (v : Value) : Value :=
  if key = "pre_start" then v.mapItems (knownOnly preStartKinds)
  else if key = "post_start" then v.mapItems (knownOnly postStartKinds)
  else v

/-- The document with its actions rid of the keys that they do not have. -/
def knownActions : Value → Value
  | .table entries => .table (entries.map fun entry => (entry.1, knownActionsAt entry.1 entry.2))
  | v => v

variable {α : Type} {fields : Shape}

/-- What reads the fields of an action reads the same without the other keys. -/
def ReadsPast (fields : Shape) (read : Value → Except Misfit α) : Prop :=
  ∀ rest : Entries, read (.table (rest.filter fun entry => entry.1 ∈ actionKeys fields)) =
    read (.table rest)

theorem readsPast_of_slots (lenient : fields.closed = false) {next : Slots → Except Misfit α}
    (blind : ∀ present rest : Entries,
      (∀ name ∈ fields.names, present.lookup name = rest.lookup name) →
        next ⟨present, false, .missingField⟩ = next ⟨rest, false, .missingField⟩) :
    ReadsPast fields fun v => fields.slots .buffered v >>= next := fun rest =>
  Shape.read_filter lenient (fun name => name ∈ actionKeys fields)
    (fun _ mem => decide_eq_true (List.mem_cons_of_mem _ mem)) fun present => blind present rest

/-- The kinds of a record with their fields, and what reads these fields and past other keys. -/
abbrev KindsReadPast (kinds : List (String × Shape))
    (readers : List (String × (Value → Except Misfit α))) : Prop :=
  List.Forall₂ (fun kind reader => kind.1 = reader.1 ∧ ReadsPast kind.2 reader.2) kinds readers

theorem KindsReadPast.lookup {kinds : List (String × Shape)}
    {readers : List (String × (Value → Except Misfit α))} (related : KindsReadPast kinds readers)
    {kind : String} {read : Value → Except Misfit α} (known : kinds.lookup kind = some fields)
    (named : readers.lookup kind = some read) : ReadsPast fields read := by
  induction related with
  | nil => cases known
  | @cons first reader kinds readers both _ ih =>
    obtain ⟨same, here⟩ := both
    rw [List.lookup_cons] at known named
    rw [← same] at named
    cases hit : kind == first.1 with
    | true =>
      simp only [hit, Option.some.injEq] at known named
      subst known named
      exact here
    | false =>
      simp only [hit] at known named
      exact ih known named

theorem decode_knownOnly {tagged : Tagged α} (key : tagged.key = actionKey)
    {kinds : List (String × Shape)} (related : KindsReadPast kinds tagged.kinds) (d : Dialect)
    (v : Value) : tagged.decode d (knownOnly kinds v) = tagged.decode d v := by
  cases v with
  | table entries =>
    show tagged.decode d (match fieldsOf? kinds entries with
      | some fields => .table (entries.filter fun entry => entry.1 ∈ actionKeys fields)
      | none => .table entries) = _
    cases known : fieldsOf? kinds entries with
    | none => rfl
    | some fields =>
      refine Tagged.decode_filter (fun name => name ∈ actionKeys fields)
        (by simp [key, actionKeys]) (fun tag read found isKind => ?_) d
      rw [key] at found
      unfold fieldsOf? at known
      rw [found] at known
      cases tag with
      | text kind => exact related.lookup known (Tagged.lookup_of_kind isKind)
      | _ => cases known
  | _ => rfl

theorem decodeCopy_readsPast : ReadsPast PreStartAction.copyShape PreStartAction.decodeCopy := by
  refine readsPast_of_slots rfl fun present rest same => ?_
  simp only [Slots.required, same "local" (by decide), same "remote" (by decide)]

theorem decodeAwaitLog_readsPast :
    ReadsPast PostStartAction.awaitLogShape PostStartAction.decodeAwaitLog := by
  refine readsPast_of_slots rfl fun present rest same => ?_
  simp only [Slots.required, Slots.withDefault, same "pattern" (by decide),
    same "stream" (by decide), same "timeout_secs" (by decide)]

theorem decodeExec_readsPast : ReadsPast PostStartAction.execShape PostStartAction.decodeExec := by
  refine readsPast_of_slots rfl fun present rest same => ?_
  simp only [Slots.required, Slots.withDefault, same "command" (by decide), same "env" (by decide)]

theorem decodeCopyOut_readsPast :
    ReadsPast PostStartAction.copyOutShape PostStartAction.decodeCopyOut := by
  refine readsPast_of_slots rfl fun present rest same => ?_
  simp only [Slots.required, same "remote" (by decide), same "local" (by decide)]

theorem preStart_knownOnly (d : Dialect) (v : Value) :
    PreStartAction.decode d (knownOnly preStartKinds v) = PreStartAction.decode d v :=
  decode_knownOnly rfl (.cons ⟨rfl, decodeCopy_readsPast⟩ .nil) d v

theorem postStart_knownOnly (d : Dialect) (v : Value) :
    PostStartAction.decode d (knownOnly postStartKinds v) = PostStartAction.decode d v :=
  decode_knownOnly rfl (.cons ⟨rfl, decodeAwaitLog_readsPast⟩ (.cons ⟨rfl, decodeExec_readsPast⟩
    (.cons ⟨rfl, decodeCopyOut_readsPast⟩ .nil))) d v

/-- What the fields of the root make of a value does not depend on the keys that actions do not
have. -/
theorem check_knownActionsAt {g : Field} (mem : g ∈ shape.fields) (d : Dialect) (v : Value) :
    g.check d (knownActionsAt g.name v) = g.check d v := by
  have preStart := Decoder.listOf_mapItems (preStart_knownOnly d) v
  have postStart := Decoder.listOf_mapItems (postStart_knownOnly d) v
  simp only [shape, List.mem_cons, List.not_mem_nil, or_false] at mem
  rcases mem with rfl | rfl | rfl | rfl
  · rfl
  · rfl
  · exact congrArg (Except.map _) preStart
  · exact congrArg (Except.map _) postStart

theorem decode_knownActions (d : Dialect) (document : Value) :
    decode d (knownActions document) = decode d document := by
  cases document with
  | table entries =>
    refine Shape.read_mapValues knownActionsAt (fun g mem v => check_knownActionsAt mem d v)
      fun present looked => ?_
    have version := Shape.required_of_map (d := d) .word32 (fun v => rfl)
      (looked "manifest_version")
    have container := Shape.required_of_map (d := d) ContainerSection.decode (fun v => rfl)
      (looked "container")
    have preStart := Shape.withDefault_of_map (.listOf PreStartAction.decode)
      (Decoder.listOf_mapItems (preStart_knownOnly d)) (looked "pre_start") []
    have postStart := Shape.withDefault_of_map (.listOf PostStartAction.decode)
      (Decoder.listOf_mapItems (postStart_knownOnly d)) (looked "post_start") []
    simp only [version, container, preStart, postStart]
  | _ => rfl

/-! ### Unknown keys of a manifest -/

variable {source : String} {document : Value}

/-- A text of TOML is no manifest when one of the records in it has a key that the record does not
have; the keys that its actions do not have make no difference to what is read. -/
theorem read_of_unknown_keys (parsed : Toml.read? source = some document) :
    (∀ record entries, RecordTable document record entries →
      (∃ entry ∈ entries, entry.1 ∉ record.names) → ∃ cause, read source = .error (.misfit cause)) ∧
    read source = (decode .toml (knownActions document)).mapError .misfit := by
  have reads : read source = (decode .toml document).mapError .misfit := by
    unfold read
    rw [parsed]
  refine ⟨fun record entries table unknown => ?_, ?_⟩
  · obtain ⟨cause, refused⟩ := table.refused unknown .toml
    exact ⟨cause, by rw [reads, refused]; rfl⟩
  · rw [decode_knownActions, reads]

/-- A port whose key for the port of the host is misspelt. -/
def misspeltPort : String :=
  "manifest_version = 1\n[container]\nimage = \"redis:7\"\n" ++
    "[[container.ports]]\ncontainer = 6379\nhots = 16379\n"

def misspeltPortEntries : Entries := [("container", .integer 6379), ("hots", .integer 16379)]

/-- The document around that port. -/
def misspeltPortDocument : Value :=
  .table [("manifest_version", .integer 1), ("container", .table [("image", .text "redis:7"),
    ("ports", .rows [.table misspeltPortEntries])])]

theorem misspelt_port_refused :
    Toml.read? misspeltPort = some misspeltPortDocument ∧
      ∃ cause, read misspeltPort = .error (.misfit cause) := by
  have parsed : Toml.read? misspeltPort = some misspeltPortDocument :=
    Toml.read?_eq_some (by decide +kernel)
  have table : RecordTable misspeltPortDocument PortEntry.shape misspeltPortEntries :=
    .port (.entry _ rfl (.tail _ (.head _))) (.entry _ rfl (.tail _ (.head _))) rfl (.head _)
  exact ⟨parsed, (read_of_unknown_keys parsed).1 PortEntry.shape misspeltPortEntries table
    ⟨("hots", .integer 16379), .tail _ (.head _), by decide⟩⟩

/-- A wait whose limit is given under the wrong key. -/
def misspeltTimeout : String :=
  "manifest_version = 1\n[container]\nimage = \"redis:7\"\n" ++
    "[[post_start]]\naction = \"await-log\"\npattern = \"Ready\"\ntimeout = 5\n"

def misspeltTimeoutEntries : Entries :=
  [("action", .text "await-log"), ("pattern", .text "Ready"), ("timeout", .integer 5)]

/-- The document around that wait. -/
def misspeltTimeoutDocument : Value :=
  .table [("manifest_version", .integer 1), ("container", .table [("image", .text "redis:7")]),
    ("post_start", .rows [.table misspeltTimeoutEntries])]

/-- Not every key that a table is not declared to have is refused: the wait is read, with the limit
that holds when none is given. -/
theorem misspelt_timeout_read_past :
    ¬ ∀ source document keys entries, Toml.read? source = some document →
        SchemaTable document keys entries → (∃ entry ∈ entries, entry.1 ∉ keys) →
          ∃ cause, read source = .error cause := by
  intro refuses
  have parsed : Toml.read? misspeltTimeout = some misspeltTimeoutDocument :=
    Toml.read?_eq_some (by decide +kernel)
  have action : SchemaTable misspeltTimeoutDocument (actionKeys PostStartAction.awaitLogShape)
      misspeltTimeoutEntries :=
    .action (.postStart (.entry _ rfl (.tail _ (.tail _ (.head _)))) rfl (.head _) rfl)
  obtain ⟨cause, refused⟩ := refuses _ _ _ _ parsed action
    ⟨("timeout", .integer 5), .tail _ (.tail _ (.head _)), by decide⟩
  have done : (read misspeltTimeout).toOption.map (·.postStart) =
      some [.awaitLog "Ready" .stdout defaultAwaitTimeout] := by decide +kernel
  rw [refused] at done
  cases done

end Manifest

end ContainerFixture
