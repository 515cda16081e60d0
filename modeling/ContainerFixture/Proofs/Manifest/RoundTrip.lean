import ContainerFixture.Manifest.Reader
import ContainerFixture.Proofs.Document.JsonText
import ContainerFixture.Proofs.Image.RoundTrip

/-!
# What is written as JSON is read back

Main result: `schema_comesBack`. Container parameters, port bindings and manifests are read back
from the JSON that they are written as, with every field and whatever was left to a default.

Each record has a lemma `decode_encode`. It holds for every function that only puts the entries of
tables in another order (`Document.Rearranges`), and so both for the value that is written and for
the one read from its text, whose tables are sorted. It holds in every dialect, since actions are
read in two steps, the second of them from a buffer. That the text is read at all follows from
`plain_encode`, of which there is one for each record too.
-/

namespace ContainerFixture

open Document Text

/-! ### Maps -/

theorem Text.insertEntry_of_last {key value : String} {entries : List (String × String)}
    (last : ∀ entry ∈ entries, entry.1 < key) :
    insertEntry key value entries = entries ++ [(key, value)] := by
  induction entries with
  | nil => rfl
  | cons first rest ih =>
    obtain ⟨before, later⟩ := List.forall_mem_cons.mp last
    have notFirst : ¬key < first.1 := String.lt_asymm before
    have differs : key ≠ first.1 := (String.ne_of_lt before).symm
    rw [insertEntry, if_neg notFirst, if_neg differs, ih later, List.cons_append]

theorem Text.TextMap.entries_foldl_insert {entries : List (String × String)} {map : TextMap}
    (sorted : (map.entries ++ entries).Pairwise fun a b => a.1 < b.1) :
    (entries.foldl (fun map entry => map.insert entry.1 entry.2) map).entries =
      map.entries ++ entries := by
  induction entries generalizing map with
  | nil => rw [List.foldl_nil, List.append_nil]
  | cons first rest ih =>
    have last : ∀ entry ∈ map.entries, entry.1 < first.1 := fun entry mem =>
      (List.pairwise_append.mp sorted).2.2 entry mem first List.mem_cons_self
    have grown : (map.insert first.1 first.2).entries = map.entries ++ [first] :=
      insertEntry_of_last last
    rw [← List.singleton_append, ← List.append_assoc, ← grown] at sorted
    rw [List.foldl_cons, ih sorted, grown, List.append_assoc, List.singleton_append]

theorem Text.TextMap.ofList_entries (map : TextMap) : TextMap.ofList map.entries = map :=
  TextMap.ext (entries_foldl_insert map.sorted)

/-! ### Simple values -/

section

-- what reading a record comes down to once its fields are found
attribute [local simp] Shape.checkEntry field Slots.required Slots.withDefault Slots.nullable
  List.lookup_cons Except.map bind Except.bind pure Except.pure

variable {f : Value → Value} (rearranges : Rearranges f) (d : Dialect) {α : Type}
include rearranges

theorem Document.Decoder.textAs_text (expected s : String) :
    Decoder.textAs expected d (f (.text s)) = .ok s := by
  rw [rearranges.text]
  rfl

theorem Document.Decoder.text_text (s : String) : Decoder.text d (f (.text s)) = .ok s :=
  textAs_text rearranges d _ s

theorem Document.Decoder.path_text (s : String) : Decoder.path d (f (.text s)) = .ok s :=
  textAs_text rearranges d _ s

theorem Document.Decoder.flag_flag (b : Bool) : Decoder.flag d (f (.flag b)) = .ok b := by
  rw [rearranges.flag]
  rfl

theorem Document.Decoder.wordAs_natural (expected : String) {bound n : Nat} (small : n < bound) :
    Decoder.wordAs expected bound d (f (.natural n)) = .ok n := by
  rw [Value.natural, rearranges.integer, wordAs, if_pos ⟨by omega, by omega⟩]
  rfl

theorem Document.Decoder.word16_natural (n : UInt16) :
    Decoder.word16 d (f (.natural n.toNat)) = .ok n := by
  rw [word16, wordAs_natural rearranges d _ n.toNat_lt, Except.map, UInt16.ofNat_toNat]

theorem Document.Decoder.word32_natural (n : UInt32) :
    Decoder.word32 d (f (.natural n.toNat)) = .ok n := by
  rw [word32, wordAs_natural rearranges d _ n.toNat_lt, Except.map, UInt32.ofNat_toNat]

theorem Document.Decoder.word64_natural (n : UInt64) :
    Decoder.word64 d (f (.natural n.toNat)) = .ok n := by
  rw [word64, wordAs_natural rearranges d _ n.toNat_lt, Except.map, UInt64.ofNat_toNat]

theorem Document.Decoder.optional_ofOption {item : Decoder α} {g : α → Value}
    (reads : ∀ a, item d (f (g a)) = .ok a) (filled : ∀ a, f (g a) ≠ .null) (x : Option α) :
    Decoder.optional item d (f (.ofOption g x)) = .ok x := by
  cases x with
  | none =>
    rw [Value.ofOption, rearranges.null]
    rfl
  | some a =>
    have present : Decoder.optional item d (f (g a)) = (item d (f (g a))).map some := by
      cases shown : f (g a) with
      | null => exact absurd shown (filled a)
      | _ => rfl
    rw [Value.ofOption, present, reads a]
    rfl

theorem Document.Decoder.listOf_map {item : Decoder α} {g : α → Value} {xs : List α}
    (reads : ∀ x ∈ xs, item d (f (g x)) = .ok x) :
    Decoder.listOf item d (f (.list (xs.map g))) = .ok xs := by
  rw [rearranges.list, List.map_map]
  refine mapM_eq_ok_iff.mpr ?_
  rw [List.forall₂_map_left_iff, List.forall₂_same]
  exact reads

theorem Document.Decoder.optional_word16 (port : Option UInt16) :
    Decoder.optional .word16 d (f (.ofOption (fun n : UInt16 => .natural n.toNat) port)) =
      .ok port := by
  refine optional_ofOption rearranges d (word16_natural rearranges d) (fun n => ?_) port
  rw [Value.natural, rearranges.integer]
  exact Value.noConfusion

theorem Document.Decoder.optional_word64 (n : Option UInt64) :
    Decoder.optional .word64 d (f (.ofOption (fun n : UInt64 => .natural n.toNat) n)) = .ok n := by
  refine optional_ofOption rearranges d (word64_natural rearranges d) (fun n => ?_) n
  rw [Value.natural, rearranges.integer]
  exact Value.noConfusion

theorem Document.Decoder.optional_text (s : Option String) :
    Decoder.optional .text d (f (.ofOption .text s)) = .ok s := by
  refine optional_ofOption rearranges d (text_text rearranges d) (fun s => ?_) s
  rw [rearranges.text]
  exact Value.noConfusion

theorem Document.Decoder.listOf_texts (items : List String) :
    Decoder.listOf .text d (f (.texts items)) = .ok items :=
  listOf_map rearranges d fun s _ => text_text rearranges d s

theorem Text.TextMap.decode_encode (map : TextMap) :
    Decoder.textMap d (f map.encode) = .ok map := by
  have sorted : (map.entries.map fun entry => (entry.1, Value.text entry.2)).Pairwise
      fun a b => a.1 < b.1 := List.pairwise_map.mpr map.sorted
  have pairs : ((map.entries.map fun entry => (entry.1, Value.text entry.2)).map fun entry =>
      (entry.1, f entry.2)).mapM (fun entry =>
        (Decoder.text d entry.2).map fun value => (entry.1, value)) = .ok map.entries := by
    refine mapM_eq_ok_iff.mpr ?_
    rw [List.map_map, List.forall₂_map_left_iff, List.forall₂_same]
    intro entry _
    exact map_eq_ok_iff.mpr ⟨entry.2, Decoder.textAs_text rearranges d _ _, rfl⟩
  rw [TextMap.encode, rearranges.sorted _ sorted, Decoder.textMap]
  simp only [Decoder.entries?]
  rw [pairs]
  exact congrArg Except.ok map.ofList_entries

/-! ### Records -/

theorem Protocol.decode_encode (protocol : Protocol) :
    Protocol.decode d (f protocol.encode) = .ok protocol := by
  rw [Protocol.encode, rearranges.text]
  cases protocol <;> rfl

theorem CommandType.decode_encode (commandType : CommandType) :
    CommandType.decode d (f commandType.encode) = .ok commandType := by
  rw [CommandType.encode, rearranges.text]
  cases commandType <;> rfl

theorem LogStream.decode_encode (stream : LogStream) :
    LogStream.decode d (f stream.encode) = .ok stream := by
  rw [LogStream.encode, rearranges.text]
  cases stream <;> rfl

theorem AccessMode.decode_encode (mode : AccessMode) :
    AccessMode.decode d (f mode.encode) = .ok mode := by
  rw [AccessMode.encode, rearranges.text]
  cases mode <;> rfl

theorem HostAddress.decode_encode (address : HostAddress) :
    HostAddress.decode d (f address.encode) = .ok address := by
  have host := Decoder.text_text rearranges d address.host
  have port := Decoder.word16_natural rearranges d address.port
  obtain ⟨arranged, read, found⟩ := rearranges.slots shape d (rfl : address.encode = .table _)
    (by simp) (by simp [shape, host, port])
  rw [decode]
  simp [read, found, host, port]

theorem HostAddress.encode_ne_null (address : HostAddress) : f address.encode ≠ .null := by
  obtain ⟨arranged, table, -⟩ := rearranges.table
    [("host", .text address.host), ("port", .natural address.port.toNat)] (by simp)
  rw [encode, table]
  exact Value.noConfusion

theorem PortBinding.decode_encode (binding : PortBinding) :
    PortBinding.decode d (f binding.encode) = .ok binding := by
  obtain ⟨containerPort, protocol, host⟩ := binding
  have portRead := Decoder.word16_natural rearranges d containerPort
  have protocolRead := Protocol.decode_encode rearranges d protocol
  cases host with
  | none =>
    obtain ⟨arranged, read, found⟩ := rearranges.slots shape d
      (rfl : encode ⟨containerPort, protocol, none⟩ = .table _) (by simp)
      (by simp [shape, portRead, protocolRead])
    rw [decode]
    simp [read, found, portRead, protocolRead]
  | some address =>
    have hostRead : Decoder.optional HostAddress.decode d (f address.encode) = .ok (some address) :=
      Decoder.optional_ofOption rearranges d (HostAddress.decode_encode rearranges d)
        (HostAddress.encode_ne_null rearranges) (some address)
    obtain ⟨arranged, read, found⟩ := rearranges.slots shape d
      (rfl : encode ⟨containerPort, protocol, some address⟩ = .table _) (by simp)
      (by simp [shape, portRead, protocolRead, hostRead])
    rw [decode]
    simp [read, found, portRead, protocolRead, hostRead]

theorem BindMount.decode_encode (mount : BindMount) :
    BindMount.decode d (f mount.encode) = .ok mount := by
  have hostDir := Decoder.path_text rearranges d mount.hostDir
  have containerDir := Decoder.text_text rearranges d mount.containerDir
  have mode := AccessMode.decode_encode rearranges d mount.mode
  obtain ⟨arranged, read, found⟩ := rearranges.slots shape d (rfl : mount.encode = .table _)
    (by simp) (by simp [shape, hostDir, containerDir, mode])
  rw [decode]
  simp [read, found, hostDir, containerDir, mode]

theorem PortSpec.decode_encode (port : PortSpec) :
    PortSpec.decode d (f port.encode) = .ok port := by
  have containerPort := Decoder.word16_natural rearranges d port.containerPort
  have protocol := Protocol.decode_encode rearranges d port.protocol
  have hostPort := Decoder.optional_word16 rearranges d port.hostPort
  obtain ⟨arranged, read, found⟩ := rearranges.slots shape d (rfl : port.encode = .table _)
    (by simp) (by simp [shape, containerPort, protocol, hostPort])
  rw [decode]
  simp [read, found, containerPort, protocol, hostPort]

theorem Document.Decoder.image_text {x : Image} (written : x.Written) :
    Decoder.image d (f (.text x.text)) = .ok x := by
  rw [image, text_text rearranges]
  simp [written.parse_text]

theorem Params.decode_encode (params : Params) (written : params.image.Written) :
    Params.decode d (f params.encode) = .ok params := by
  have image := Decoder.image_text rearranges d written
  have name := Decoder.optional_text rearranges d params.name
  have command := Decoder.listOf_texts rearranges d params.command
  have commandType := CommandType.decode_encode rearranges d params.commandType
  have ports := Decoder.listOf_map rearranges d fun port (_ : port ∈ params.ports) =>
    PortSpec.decode_encode rearranges d port
  have env := TextMap.decode_encode rearranges d params.env
  have bindMounts := Decoder.listOf_map rearranges d fun mount (_ : mount ∈ params.bindMounts) =>
    BindMount.decode_encode rearranges d mount
  have tmpfs := Decoder.listOf_texts rearranges d params.tmpfs
  have labels := TextMap.decode_encode rearranges d params.labels
  have removal := Decoder.flag_flag rearranges d params.disableAutoRemove
  have stopTimeout := Decoder.word64_natural rearranges d params.stopTimeout
  obtain ⟨arranged, read, found⟩ := rearranges.slots shape d (rfl : params.encode = .table _)
    (by simp)
    (by simp [shape, image, name, command, commandType, ports, env, bindMounts, tmpfs, labels,
      removal, stopTimeout])
  rw [decode]
  simp [read, found, image, name, command, commandType, ports, env, bindMounts, tmpfs, labels,
      removal, stopTimeout]

theorem PortEntry.decode_encode (entry : PortEntry) :
    PortEntry.decode d (f entry.encode) = .ok entry := by
  have container := Decoder.word16_natural rearranges d entry.container
  have protocol := Protocol.decode_encode rearranges d entry.protocol
  have host := Decoder.optional_word16 rearranges d entry.host
  obtain ⟨arranged, read, found⟩ := rearranges.slots shape d (rfl : entry.encode = .table _)
    (by simp) (by simp [shape, container, protocol, host])
  rw [decode]
  simp [read, found, container, protocol, host]

theorem MountEntry.decode_encode (entry : MountEntry) :
    MountEntry.decode d (f entry.encode) = .ok entry := by
  have host := Decoder.path_text rearranges d entry.host
  have container := Decoder.text_text rearranges d entry.container
  have readOnly := Decoder.flag_flag rearranges d entry.readOnly
  obtain ⟨arranged, read, found⟩ := rearranges.slots shape d (rfl : entry.encode = .table _)
    (by simp) (by simp [shape, host, container, readOnly])
  rw [decode]
  simp [read, found, host, container, readOnly]

theorem ContainerSection.decode_encode (container : ContainerSection) :
    ContainerSection.decode d (f container.encode) = .ok container := by
  have image := Decoder.text_text rearranges d container.image
  have name := Decoder.optional_text rearranges d container.name
  have command := Decoder.listOf_texts rearranges d container.command
  have commandType := CommandType.decode_encode rearranges d container.commandType
  have removal := Decoder.flag_flag rearranges d container.disableAutoRemove
  have stopTimeout := Decoder.optional_word64 rearranges d container.stopTimeout
  have tmpfs := Decoder.listOf_texts rearranges d container.tmpfs
  have env := TextMap.decode_encode rearranges d container.env
  have labels := TextMap.decode_encode rearranges d container.labels
  have ports := Decoder.listOf_map rearranges d fun port (_ : port ∈ container.ports) =>
    PortEntry.decode_encode rearranges d port
  have mounts := Decoder.listOf_map rearranges d fun mount (_ : mount ∈ container.mounts) =>
    MountEntry.decode_encode rearranges d mount
  obtain ⟨arranged, read, found⟩ := rearranges.slots shape d (rfl : container.encode = .table _)
    (by simp)
    (by simp [shape, image, name, command, commandType, removal, stopTimeout, tmpfs, env, labels,
      ports, mounts])
  rw [decode]
  simp [read, found, image, name, command, commandType, removal, stopTimeout, tmpfs, env, labels,
      ports, mounts]

theorem PreStartAction.decode_encode (action : PreStartAction) :
    PreStartAction.decode d (f action.encode) = .ok action := by
  cases action with
  | copy hostPath remote =>
    have hostRead := Decoder.path_text rearranges .buffered hostPath
    have remoteRead := Decoder.text_text rearranges .buffered remote
    obtain ⟨arranged, turned, read, found⟩ := rearranges.tagged (rfl : decode = Tagged.decode _)
      rfl copyShape d (rfl : (copy hostPath remote).encode = .table _) (by simp [actionKey])
      (by simp [copyShape, hostRead, remoteRead])
    rw [turned, decodeCopy, read]
    simp [found, actionKey, hostRead, remoteRead]

theorem PostStartAction.decode_encode (action : PostStartAction) :
    PostStartAction.decode d (f action.encode) = .ok action := by
  cases action with
  | awaitLog pattern stream timeout =>
    have patternRead := Decoder.text_text rearranges .buffered pattern
    have streamRead := LogStream.decode_encode rearranges .buffered stream
    have timeoutRead := Decoder.word64_natural rearranges .buffered timeout
    obtain ⟨arranged, turned, read, found⟩ := rearranges.tagged (rfl : decode = Tagged.decode _)
      rfl awaitLogShape d (rfl : (awaitLog pattern stream timeout).encode = .table _)
      (by simp [actionKey]) (by simp [awaitLogShape, patternRead, streamRead, timeoutRead])
    rw [turned, decodeAwaitLog, read]
    simp [found, actionKey, patternRead, streamRead, timeoutRead]
  | exec command env =>
    have commandRead := Decoder.listOf_texts rearranges .buffered command
    have envRead := TextMap.decode_encode rearranges .buffered env
    obtain ⟨arranged, turned, read, found⟩ := rearranges.tagged (rfl : decode = Tagged.decode _)
      rfl execShape d (rfl : (exec command env).encode = .table _) (by simp [actionKey])
      (by simp [execShape, commandRead, envRead])
    rw [turned, decodeExec, read]
    simp [found, actionKey, commandRead, envRead]
  | copyOut remote hostPath =>
    have remoteRead := Decoder.text_text rearranges .buffered remote
    have hostRead := Decoder.path_text rearranges .buffered hostPath
    obtain ⟨arranged, turned, read, found⟩ := rearranges.tagged (rfl : decode = Tagged.decode _)
      rfl copyOutShape d (rfl : (copyOut remote hostPath).encode = .table _) (by simp [actionKey])
      (by simp [copyOutShape, remoteRead, hostRead])
    rw [turned, decodeCopyOut, read]
    simp [found, actionKey, remoteRead, hostRead]

theorem Manifest.decode_encode (manifest : Manifest) :
    Manifest.decode d (f manifest.encode) = .ok manifest := by
  have version := Decoder.word32_natural rearranges d manifest.version
  have container := ContainerSection.decode_encode rearranges d manifest.container
  have preStart := Decoder.listOf_map rearranges d fun action (_ : action ∈ manifest.preStart) =>
    PreStartAction.decode_encode rearranges d action
  have postStart := Decoder.listOf_map rearranges d
    fun action (_ : action ∈ manifest.postStart) =>
      PostStartAction.decode_encode rearranges d action
  obtain ⟨arranged, read, found⟩ := rearranges.slots shape d (rfl : manifest.encode = .table _)
    (by simp) (by simp [shape, version, container, preStart, postStart])
  rw [decode]
  simp [read, found, version, container, preStart, postStart]

end

/-! ### Values without loss -/

section

variable (depth : Nat)

theorem Document.Json.plain_natural {n : Nat} (small : n < UInt64.size) :
    Plain (depth + 1) (.natural n) :=
  .integer depth (by omega) (Int.ofNat_lt.mpr small)

theorem Document.Json.plain_word16 (n : UInt16) : Plain (depth + 1) (.natural n.toNat) :=
  plain_natural depth (Nat.lt_trans n.toNat_lt (by decide))

theorem Document.Json.plain_word32 (n : UInt32) : Plain (depth + 1) (.natural n.toNat) :=
  plain_natural depth (Nat.lt_trans n.toNat_lt (by decide))

theorem Document.Json.plain_word64 (n : UInt64) : Plain (depth + 1) (.natural n.toNat) :=
  plain_natural depth n.toNat_lt

theorem Document.Json.plain_ofOption {α : Type} {g : α → Value}
    (plain : ∀ a, Plain (depth + 1) (g a)) (x : Option α) : Plain (depth + 1) (.ofOption g x) := by
  cases x with
  | none => exact .null depth
  | some a => exact plain a

theorem Document.Json.plain_list {α : Type} {g : α → Value} (plain : ∀ a, Plain depth (g a))
    (xs : List α) : Plain (depth + 1) (.list (xs.map g)) :=
  .list (List.forall_mem_map.mpr fun a _ => plain a)

theorem Document.Json.plain_texts (items : List String) : Plain (depth + 2) (.texts items) :=
  plain_list (depth + 1) (Plain.text depth) items

theorem Text.TextMap.plain_encode (map : TextMap) : Json.Plain (depth + 2) map.encode :=
  .table (List.forall_mem_map.mpr fun entry _ => .text depth entry.2)

attribute [local simp] Json.Plain.text Json.Plain.flag Json.plain_word16 Json.plain_word32
  Json.plain_word64 Json.plain_texts TextMap.plain_encode

theorem HostAddress.plain_encode (address : HostAddress) : Json.Plain (depth + 2) address.encode :=
  .table (by simp)

theorem PortBinding.plain_encode (binding : PortBinding) :
    Json.Plain (depth + 3) binding.encode := by
  have protocol : Json.Plain (depth + 2) binding.protocol.encode := .text _ _
  refine .table ?_
  cases binding.host <;> simp [protocol, HostAddress.plain_encode]

theorem PortSpec.plain_encode (port : PortSpec) : Json.Plain (depth + 2) port.encode := by
  have protocol : Json.Plain (depth + 1) port.protocol.encode := .text _ _
  have hostPort := Json.plain_ofOption depth (Json.plain_word16 depth) port.hostPort
  exact .table (by simp [protocol, hostPort])

theorem BindMount.plain_encode (mount : BindMount) : Json.Plain (depth + 2) mount.encode := by
  have mode : Json.Plain (depth + 1) mount.mode.encode := .text _ _
  exact .table (by simp [mode])

theorem Params.plain_encode (params : Params) : Json.Plain (depth + 4) params.encode := by
  have name := Json.plain_ofOption (depth + 2) (Json.Plain.text (depth + 2)) params.name
  have commandType : Json.Plain (depth + 3) params.commandType.encode := .text _ _
  have ports := Json.plain_list (depth + 2) (PortSpec.plain_encode depth) params.ports
  have bindMounts := Json.plain_list (depth + 2) (BindMount.plain_encode depth) params.bindMounts
  exact .table (by simp [name, commandType, ports, bindMounts])

theorem PortEntry.plain_encode (entry : PortEntry) : Json.Plain (depth + 2) entry.encode := by
  have protocol : Json.Plain (depth + 1) entry.protocol.encode := .text _ _
  have host := Json.plain_ofOption depth (Json.plain_word16 depth) entry.host
  exact .table (by simp [protocol, host])

theorem MountEntry.plain_encode (entry : MountEntry) : Json.Plain (depth + 2) entry.encode :=
  .table (by simp)

theorem ContainerSection.plain_encode (container : ContainerSection) :
    Json.Plain (depth + 4) container.encode := by
  have name := Json.plain_ofOption (depth + 2) (Json.Plain.text (depth + 2)) container.name
  have commandType : Json.Plain (depth + 3) container.commandType.encode := .text _ _
  have stopTimeout :=
    Json.plain_ofOption (depth + 2) (Json.plain_word64 (depth + 2)) container.stopTimeout
  have ports := Json.plain_list (depth + 2) (PortEntry.plain_encode depth) container.ports
  have mounts := Json.plain_list (depth + 2) (MountEntry.plain_encode depth) container.mounts
  exact .table (by simp [name, commandType, stopTimeout, ports, mounts])

theorem PreStartAction.plain_encode (action : PreStartAction) :
    Json.Plain (depth + 2) action.encode := by
  cases action
  exact .table (by simp)

theorem PostStartAction.plain_encode (action : PostStartAction) :
    Json.Plain (depth + 3) action.encode := by
  cases action with
  | awaitLog pattern stream timeout =>
    have stream : Json.Plain (depth + 2) stream.encode := .text _ _
    exact .table (by simp [stream])
  | exec | copyOut => exact .table (by simp)

theorem Manifest.plain_encode (manifest : Manifest) : Json.Plain (depth + 5) manifest.encode := by
  have container := ContainerSection.plain_encode depth manifest.container
  have preStart :=
    Json.plain_list (depth + 3) (PreStartAction.plain_encode (depth + 1)) manifest.preStart
  have postStart :=
    Json.plain_list (depth + 3) (PostStartAction.plain_encode depth) manifest.postStart
  exact .table (by simp [container, preStart, postStart])

end

/-! ### Main result -/

/-- What is written as JSON is read back: from the value, and from its text on one line or over
several. -/
structure ComesBack {α : Type} (encode : α → Value) (decode : Decoder α) (a : α) : Prop where
  value : decode .json (encode a) = .ok a
  text : ∀ s ∈ [Json.compact (encode a), Json.pretty (encode a)],
    ∃ v, Json.read? s = some v ∧ decode .json v = .ok a

theorem ComesBack.of_rearranges {α : Type} {encode : α → Value} {decode : Decoder α} {a : α}
    (plain : Json.Plain Json.maxDepth (encode a))
    (read : ∀ {f : Value → Value}, Rearranges f → decode .json (f (encode a)) = .ok a) :
    ComesBack encode decode a where
  value := read rearranges_id
  text := by
    intro s mem
    refine ⟨(encode a).sorted, ?_, read rearranges_sorted⟩
    rcases List.mem_cons.mp mem with rfl | mem
    · exact Json.read?_compact plain
    · rw [List.mem_singleton.mp mem]
      exact Json.read?_pretty plain

theorem Document.Decoder.parsed_of_image {d : Dialect} {v : Value} {x : Image}
    (read : Decoder.image d v = .ok x) : ∃ s, Image.parse s = .ok x := by
  obtain ⟨s, -, parsed⟩ := bind_eq_ok_iff.mp read
  refine ⟨s, ?_⟩
  cases found : Image.parse s with
  | ok reference =>
    rw [found] at parsed
    exact congrArg Except.ok (Except.ok.inj parsed)
  | error cause =>
    rw [found] at parsed
    cases parsed

theorem Params.parsed_of_decode {d : Dialect} {v : Value} {params : Params}
    (read : Params.decode d v = .ok params) : ∃ s, Image.parse s = .ok params.image := by
  obtain ⟨slots, -, filled⟩ := bind_eq_ok_iff.mp read
  obtain ⟨image, given, filled⟩ := bind_eq_ok_iff.mp filled
  have parsed : ∃ s, Image.parse s = .ok image := by
    unfold Slots.required at given
    split at given
    · exact Decoder.parsed_of_image given
    · cases given
  -- the other ten fields do not touch the image
  iterate 10 obtain ⟨_, -, filled⟩ := bind_eq_ok_iff.mp filled
  rw [← Except.ok.inj filled]
  exact parsed

theorem Params.comesBack {params : Params} (parsed : ∃ s, Image.parse s = .ok params.image) :
    ComesBack Params.encode Params.decode params := by
  obtain ⟨s, parsed⟩ := parsed
  obtain ⟨parts, written, -, image⟩ := Image.parse_sound parsed
  exact .of_rearranges (Params.plain_encode 124 params) fun rearranges =>
    Params.decode_encode rearranges .json params ⟨parts, written, image⟩

theorem PortBinding.comesBack (binding : PortBinding) :
    ComesBack PortBinding.encode PortBinding.decode binding :=
  .of_rearranges (PortBinding.plain_encode 125 binding) fun rearranges =>
    PortBinding.decode_encode rearranges .json binding

theorem Manifest.comesBack (manifest : Manifest) :
    ComesBack Manifest.encode Manifest.decode manifest :=
  .of_rearranges (Manifest.plain_encode 123 manifest) fun rearranges =>
    Manifest.decode_encode rearranges .json manifest

/-- Container parameters, port bindings and manifests survive being written as JSON and read again,
and so does what was read from any document. A manifest read from its file and the same manifest
read back from JSON are resolved alike, against any directory. -/
theorem schema_comesBack :
    (∀ params : Params, (∃ s, Image.parse s = .ok params.image) →
        ComesBack Params.encode Params.decode params) ∧
      (∀ binding, ComesBack PortBinding.encode PortBinding.decode binding) ∧
      (∀ manifest, ComesBack Manifest.encode Manifest.decode manifest) ∧
      (∀ v params, Params.decode .json v = .ok params →
        ComesBack Params.encode Params.decode params) ∧
      (∀ v binding, PortBinding.decode .json v = .ok binding →
        ComesBack PortBinding.encode PortBinding.decode binding) ∧
      (∀ v manifest, Manifest.decode .json v = .ok manifest →
        ComesBack Manifest.encode Manifest.decode manifest) ∧
      ∀ source manifest, Manifest.read source = .ok manifest →
        ∀ s ∈ [Json.compact manifest.encode, Json.pretty manifest.encode],
          ∃ v reread, Json.read? s = some v ∧ Manifest.decode .json v = .ok reread ∧
            ∀ baseDir, reread.resolve baseDir = manifest.resolve baseDir := by
  refine ⟨fun params => Params.comesBack, PortBinding.comesBack, Manifest.comesBack,
    fun v params read => Params.comesBack (Params.parsed_of_decode read),
    fun v binding _ => PortBinding.comesBack binding,
    fun v manifest _ => Manifest.comesBack manifest, ?_⟩
  intro source manifest _ s mem
  obtain ⟨v, parsed, read⟩ := (Manifest.comesBack manifest).text s mem
  exact ⟨v, manifest, parsed, read, fun baseDir => rfl⟩

/-- The parameters of a cache that other containers reach by its name. -/
def cacheParams : Params where
  image := ⟨none, none, "redis", some (.tag "7")⟩
  name := some "cache"
  command := ["redis-server", "--save", ""]
  commandType := .blocking
  ports := [⟨6379, .tcp, none⟩]
  env := .empty
  bindMounts := []
  tmpfs := ["/data"]
  labels := .ofList [("tier", "cache")]
  disableAutoRemove := false
  stopTimeout := 10

/-- The source of a manifest that leaves most to the defaults. -/
def cacheSource : String :=
  "manifest_version = 1\n[container]\nimage = \"redis:7\"\n" ++
    "[[post_start]]\naction = \"await-log\"\npattern = \"Ready\"\n"

def cacheManifest : Manifest where
  version := 1
  container :=
    { image := "redis:7", name := none, command := [], commandType := .blocking,
      disableAutoRemove := false, stopTimeout := none, tmpfs := [], env := .empty,
      labels := .empty, ports := [], mounts := [] }
  preStart := []
  postStart := [.awaitLog "Ready" .stdout Manifest.defaultAwaitTimeout]

theorem cache_comesBack :
    (Image.parse "redis:7" = .ok cacheParams.image ∧
        ComesBack Params.encode Params.decode cacheParams) ∧
      (Params.decode .json cacheParams.encode = .ok cacheParams ∧
        ∃ v, Json.read? (Json.pretty cacheParams.encode) = some v ∧
          Params.decode .json v = .ok cacheParams) ∧
      Manifest.read cacheSource = .ok cacheManifest ∧
      ∃ v reread, Json.read? (Json.compact cacheManifest.encode) = some v ∧
        Manifest.decode .json v = .ok reread ∧
        ∀ baseDir, reread.resolve baseDir = cacheManifest.resolve baseDir := by
  obtain ⟨written, -, -, read, -, -, resolved⟩ := schema_comesBack
  have parsed : Image.parse "redis:7" = .ok cacheParams.image := by decide +kernel
  have decoded : Params.decode .json cacheParams.encode = .ok cacheParams := by decide +kernel
  have source : Manifest.read cacheSource = .ok cacheManifest := by decide +kernel
  refine ⟨⟨parsed, written cacheParams ⟨"redis:7", parsed⟩⟩, ⟨decoded, ?_⟩, source, ?_⟩
  · exact (read cacheParams.encode cacheParams decoded).text _ (.tail _ (.head _))
  · exact resolved cacheSource cacheManifest source _ (.head _)

end ContainerFixture
