import ContainerFixture.Docker.Arguments
import ContainerFixture.Proofs.Image.RoundTrip
import ContainerFixture.Proofs.Port.Listing

/-!
# What the arguments of a creation tell

Main results: `Docker.createArguments_determine` and `Docker.createArguments_collide`. The arguments
that create a container tell its name, its timeout and whether it removes itself. They tell the rest
as far as three texts can be taken apart, which valid parameters do not guarantee: an image may have
the name of an option, the key of a label may hold an equals sign, and both paths of a mount may
hold a colon with a slash after it. Paths of the host are Unicode text here; other ones could have
one text in common.

The arguments are read from the front. Behind the timeout there are options, each with its value, up
to the first word that is no option, which is the image (`options_inj`); the values of one option
are those of one field, in its order (`valuesOf`).
-/

namespace ContainerFixture

open Text

theorem map_inj_of_mem {α β : Type} {f : α → β} (valid : α → Prop) {xs ys : List α}
    (all : ∀ x ∈ xs, valid x) (all' : ∀ y ∈ ys, valid y)
    (inj : ∀ x y, valid x → valid y → f x = f y → x = y) (same : xs.map f = ys.map f) :
    xs = ys := by
  induction xs generalizing ys with
  | nil => simpa using same.symm
  | cons x rest ih =>
    cases ys with
    | nil => cases same
    | cons y rest' =>
      obtain ⟨here, later⟩ := List.cons.inj same
      rw [inj x y (all x List.mem_cons_self) (all' y List.mem_cons_self) here,
        ih (fun z mem => all z (List.mem_cons_of_mem _ mem))
          (fun z mem => all' z (List.mem_cons_of_mem _ mem)) later]

namespace Docker

/-! ### Ports -/

theorem colon_not_mem_portSide (port : UInt16) (protocol : Protocol) :
    ':' ∉ portSide port protocol := by
  rw [portSide, List.mem_append, List.mem_cons, not_or, not_or]
  refine ⟨not_mem_portDigits (by decide), by decide, fun letter => ?_⟩
  exact absurd (protocol.range_of_mem_text ':' letter) (by decide)

theorem portSide_inj {port port' : UInt16} {protocol protocol' : Protocol}
    (same : portSide port protocol = portSide port' protocol') :
    port = port' ∧ protocol = protocol' := by
  have read : PortBinding.readContainerSide [] (trimBlank (portSide port' protocol')) =
      .ok (port, protocol) := same ▸ readContainerSide_portSide
  rw [readContainerSide_portSide] at read
  exact (Prod.mk.inj (Except.ok.inj read)).imp Eq.symm Eq.symm

theorem portDigits_inj {port port' : UInt16} (same : portDigits port = portDigits port') :
    port = port' := by
  have read := word16?_portDigits port
  rw [same, word16?_portDigits] at read
  exact (Option.some.inj read).symm

theorem toList_publishText (port : PortSpec) : (publishText port).toList =
    (match port.hostPort with
      | none => []
      | some host => portDigits host ++ [':']) ++ portSide port.containerPort port.protocol := by
  cases host : port.hostPort with
  | none =>
    simp only [publishText, host, Option.map_none, Option.getD_none, String.empty_append,
      String.toList_append, List.append_assoc, List.nil_append]
    rfl
  | some host =>
    simp only [publishText, host, Option.map_some, Option.getD_some, String.toList_append,
      List.append_assoc]
    rfl

/-- A colon in the text is the sign of a host port. -/
theorem publishText_injective : Function.Injective publishText := by
  intro port port' same
  have same : (publishText port).toList = (publishText port').toList := congrArg _ same
  rw [toList_publishText, toList_publishText] at same
  obtain ⟨containerPort, protocol, host⟩ := port
  obtain ⟨containerPort', protocol', host'⟩ := port'
  cases host with
  | none =>
    cases host' with
    | none =>
      obtain ⟨rfl, rfl⟩ := portSide_inj same
      rfl
    | some host' =>
      refine absurd ?_ (colon_not_mem_portSide containerPort protocol)
      rw [show portSide containerPort protocol = _ from same]
      simp
  | some host =>
    cases host' with
    | none =>
      refine absurd ?_ (colon_not_mem_portSide containerPort' protocol')
      rw [← show _ = portSide containerPort' protocol' from same]
      simp
    | some host' =>
      have cut : portDigits host ++ ':' :: portSide containerPort protocol =
          portDigits host' ++ ':' :: portSide containerPort' protocol' := by simpa using same
      obtain ⟨hosts, sides⟩ := append_cons_inj_of_first (not_mem_portDigits (by decide))
        (not_mem_portDigits (by decide)) cut
      obtain ⟨rfl, rfl⟩ := portSide_inj sides
      rw [portDigits_inj hosts]

/-! ### Entries of maps -/

/-- The text of an entry, as `pairOptions` writes it. -/
def entryText (entry : String × String) : String := entry.1 ++ "=" ++ entry.2

theorem toList_entryText (entry : String × String) :
    (entryText entry).toList = entry.1.toList ++ '=' :: entry.2.toList := by
  simp [entryText]

theorem entryText_inj {entry entry' : String × String} (free : '=' ∉ entry.1.toList)
    (free' : '=' ∉ entry'.1.toList) (same : entryText entry = entryText entry') :
    entry = entry' := by
  have same : (entryText entry).toList = (entryText entry').toList := congrArg _ same
  rw [toList_entryText, toList_entryText] at same
  obtain ⟨keys, values⟩ := append_cons_inj_of_first free free' same
  exact Prod.ext (String.toList_inj.mp keys) (String.toList_inj.mp values)

theorem textMap_eq_of_entryTexts {map map' : TextMap} (free : ∀ key ∈ map.keys, '=' ∉ key.toList)
    (free' : ∀ key ∈ map'.keys, '=' ∉ key.toList)
    (same : map.entries.map entryText = map'.entries.map entryText) : map = map' := by
  refine TextMap.ext (map_inj_of_mem (fun entry => '=' ∉ entry.1.toList) ?_ ?_ ?_ same)
  · exact fun entry mem => free entry.1 (List.mem_map_of_mem mem)
  · exact fun entry mem => free' entry.1 (List.mem_map_of_mem mem)
  · exact fun entry entry' => entryText_inj

/-! ### Mounts -/

/-- Whether a path holds a colon with a slash after it. -/
def HoldsColonSlash (path : String) : Prop := [':', '/'] <:+: path.toList

instance : DecidablePred HoldsColonSlash := fun path =>
  inferInstanceAs (Decidable ([':', '/'] <:+: path.toList))

/-- When a text can be cut in two ways before a slash, both the front of the longer cut and the back
of the shorter hold a colon with a slash after it. -/
theorem cut_of_cut (front : List Char) {back middle back' : List Char}
    (absolute : back.head? = some '/') (absolute' : back'.head? = some '/')
    (same : ':' :: back = middle ++ ':' :: back') :
    middle = [] ∨ [':', '/'] <:+: front ++ middle ∧ [':', '/'] <:+: back := by
  cases middle with
  | nil => exact Or.inl rfl
  | cons colon rest =>
    obtain ⟨rfl, rfl⟩ := List.cons.inj same
    obtain ⟨others, rfl⟩ : ∃ others, back' = '/' :: others := List.head?_eq_some_iff.mp absolute'
    cases rest with
    | nil => cases absolute
    | cons slash more =>
      obtain rfl : slash = '/' := by simpa using absolute
      exact Or.inr ⟨⟨front, more, by simp⟩, ⟨'/' :: more, others, by simp⟩⟩

theorem mount_cut_inj {front front' back back' : List Char} (absolute : back.head? = some '/')
    (absolute' : back'.head? = some '/') (same : front ++ ':' :: back = front' ++ ':' :: back')
    (clear : (¬ [':', '/'] <:+: front ∧ ¬ [':', '/'] <:+: front') ∨
      (¬ [':', '/'] <:+: back ∧ ¬ [':', '/'] <:+: back')) : front = front' ∧ back = back' := by
  rcases List.append_eq_append_iff.mp same with ⟨middle, rfl, rest⟩ | ⟨middle, rfl, rest⟩
  · rcases cut_of_cut front absolute absolute' rest with rfl | ⟨inFront, inBack⟩
    · simpa using rest
    · exact absurd clear (by simp [inFront, inBack])
  · rcases cut_of_cut front' absolute' absolute rest with rfl | ⟨inFront, inBack⟩
    · simpa using rest.symm
    · exact absurd clear (by simp [inFront, inBack])

theorem colon_not_mem_modeText (mode : AccessMode) : ':' ∉ (modeText mode).toList := by
  cases mode <;> decide

theorem modeText_injective : Function.Injective modeText := by
  intro mode mode' same
  cases mode <;> cases mode' <;> simp_all [modeText]

theorem toList_volumeText (mount : BindMount) : (volumeText mount).toList =
    (mount.hostDir.toList ++ ':' :: mount.containerDir.toList) ++
      ':' :: (modeText mount.mode).toList := by
  simp [volumeText]

theorem volumeText_inj {mount mount' : BindMount}
    (absolute : HostPath.isAbsolute mount.containerDir = true)
    (absolute' : HostPath.isAbsolute mount'.containerDir = true)
    (clear : (¬ HoldsColonSlash mount.hostDir ∧ ¬ HoldsColonSlash mount'.hostDir) ∨
      (¬ HoldsColonSlash mount.containerDir ∧ ¬ HoldsColonSlash mount'.containerDir))
    (same : volumeText mount = volumeText mount') : mount = mount' := by
  have same : (volumeText mount).toList = (volumeText mount').toList := congrArg _ same
  rw [toList_volumeText, toList_volumeText] at same
  obtain ⟨paths, modes⟩ := append_cons_inj_of_last (colon_not_mem_modeText _)
    (colon_not_mem_modeText _) same
  obtain ⟨hostDirs, containerDirs⟩ := mount_cut_inj (of_decide_eq_true absolute)
    (of_decide_eq_true absolute') paths clear
  obtain ⟨hostDir, containerDir, mode⟩ := mount
  obtain ⟨hostDir', containerDir', mode'⟩ := mount'
  rw [BindMount.mk.injEq]
  exact ⟨String.toList_inj.mp hostDirs, String.toList_inj.mp containerDirs,
    modeText_injective (String.toList_inj.mp modes)⟩

/-! ### Options -/

/-- The options that stand before the image. -/
def optionNames : List String := ["--publish", "--env", "--volume", "--tmpfs", "--label"]

/-- The options of parameters with their values. -/
def options (params : Params) : List (String × String) :=
  params.ports.map (fun port => ("--publish", publishText port)) ++
    params.env.entries.map (fun entry => ("--env", entryText entry)) ++
    params.bindMounts.map (fun mount => ("--volume", volumeText mount)) ++
    params.tmpfs.map (fun path => ("--tmpfs", path)) ++
    params.labels.entries.map (fun entry => ("--label", entryText entry))

/-- Options as arguments. -/
def flattened (options : List (String × String)) : List String :=
  options.flatMap fun option => [option.1, option.2]

theorem createArguments_eq (params : Params) : createArguments params =
    "create" :: ((params.name.map fun name => ["--name", name]).getD [] ++
      ((if params.autoRemove then ["--rm"] else []) ++
        "--stop-timeout" :: params.stopTimeout.toNat.repr ::
          (flattened (options params) ++ params.image.text :: params.command))) := by
  simp [createArguments, flattened, options, pairOptions, entryText, List.flatMap_map]

theorem name_of_mem_options {params : Params} {option : String × String}
    (mem : option ∈ options params) : option.1 ∈ optionNames := by
  simp only [options, List.mem_append, List.mem_map] at mem
  rcases mem with (((⟨_, -, rfl⟩ | ⟨_, -, rfl⟩) | ⟨_, -, rfl⟩) | ⟨_, -, rfl⟩) | ⟨_, -, rfl⟩ <;>
    simp [optionNames]

/-- The words before the options are told apart by their first letters. -/
theorem front_inj {name name' : Option String} {remove remove' : Bool} {timeout timeout' : String}
    {rest rest' : List String}
    (same : (name.map fun name => ["--name", name]).getD [] ++
        ((if remove then ["--rm"] else []) ++ "--stop-timeout" :: timeout :: rest) =
      (name'.map fun name => ["--name", name]).getD [] ++
        ((if remove' then ["--rm"] else []) ++ "--stop-timeout" :: timeout' :: rest')) :
    name = name' ∧ remove = remove' ∧ timeout = timeout' ∧ rest = rest' := by
  cases name <;> cases name' <;> cases remove <;> cases remove' <;> simp_all

/-- Options end where an image stands that is not named like an option. -/
theorem options_inj {options options' : List (String × String)} {image image' : String}
    {command command' : List String} (known : ∀ option ∈ options, option.1 ∈ optionNames)
    (known' : ∀ option ∈ options', option.1 ∈ optionNames) (foreign : image ∉ optionNames)
    (foreign' : image' ∉ optionNames)
    (same : flattened options ++ image :: command = flattened options' ++ image' :: command') :
    options = options' ∧ image = image' ∧ command = command' := by
  induction options generalizing options' with
  | nil =>
    cases options' with
    | nil => simpa [flattened] using same
    | cons option' others' =>
      obtain ⟨rfl, -⟩ := List.cons.inj same
      exact absurd (known' option' List.mem_cons_self) foreign
  | cons option others ih =>
    cases options' with
    | nil =>
      obtain ⟨rfl, -⟩ := List.cons.inj same
      exact absurd (known option List.mem_cons_self) foreign'
    | cons option' others' =>
      obtain ⟨names, afterName⟩ := List.cons.inj same
      obtain ⟨values, afterValue⟩ := List.cons.inj afterName
      obtain ⟨rfl, images⟩ := ih (fun o mem => known o (List.mem_cons_of_mem _ mem))
        (fun o mem => known' o (List.mem_cons_of_mem _ mem)) afterValue
      exact ⟨by rw [Prod.ext names values], images⟩

/-- The values given to one option. -/
def valuesOf (name : String) (options : List (String × String)) : List String :=
  (options.filter fun option => option.1 = name).map Prod.snd

/-- Each option carries one field. -/
theorem valuesOf_options (params : Params) :
    valuesOf "--publish" (options params) = params.ports.map publishText ∧
    valuesOf "--env" (options params) = params.env.entries.map entryText ∧
    valuesOf "--volume" (options params) = params.bindMounts.map volumeText ∧
    valuesOf "--tmpfs" (options params) = params.tmpfs ∧
    valuesOf "--label" (options params) = params.labels.entries.map entryText := by
  simp [valuesOf, options, List.filter_map, Function.comp_def]

/-! ### Main results -/

/-- Two sets of parameters that are valid, whose images were read, and for which the client is
called with the same arguments. -/
structure Alike (params params' : Params) : Prop where
  read : ∃ s, Image.parse s = .ok params.image
  read' : ∃ s, Image.parse s = .ok params'.image
  valid : params.validate = .ok ()
  valid' : params'.validate = .ok ()
  same : createArguments params = createArguments params'

theorem image_eq_of_text {x y : Image} (read : ∃ s, Image.parse s = .ok x)
    (read' : ∃ s, Image.parse s = .ok y) (same : x.text = y.text) : x = y := by
  obtain ⟨s, read⟩ := read
  obtain ⟨s', read'⟩ := read'
  obtain ⟨parts, written, -, rfl⟩ := Image.parse_sound read
  obtain ⟨parts', written', -, rfl⟩ := Image.parse_sound read'
  have back := Image.Written.parse_text ⟨parts, written, rfl⟩
  rw [same, Image.Written.parse_text ⟨parts', written', rfl⟩] at back
  exact (Except.ok.inj back).symm

/-- An environment variable cannot be named with an equals sign. -/
theorem env_eq_of_valid {params params' : Params} (valid : params.validate = .ok ())
    (valid' : params'.validate = .ok ())
    (same : params.env.entries.map entryText = params'.env.entries.map entryText) :
    params.env = params'.env := by
  have free {params : Params} (valid : params.validate = .ok ()) :
      ∀ name ∈ params.env.keys, '=' ∉ name.toList := by
    intro name mem
    have named := (Params.validate_eq_ok_iff.mp valid).2.2.1 name mem
    simp only [Params.isEnvName, Bool.and_eq_true, Bool.not_eq_true', decide_eq_false_iff_not]
      at named
    exact named.2
  exact textMap_eq_of_entryTexts (free valid) (free valid') same

theorem bindMounts_eq_of_valid {params params' : Params} (valid : params.validate = .ok ())
    (valid' : params'.validate = .ok ())
    (clear : (∀ mount ∈ params.bindMounts ++ params'.bindMounts, ¬ HoldsColonSlash mount.hostDir) ∨
      ∀ mount ∈ params.bindMounts ++ params'.bindMounts, ¬ HoldsColonSlash mount.containerDir)
    (same : params.bindMounts.map volumeText = params'.bindMounts.map volumeText) :
    params.bindMounts = params'.bindMounts := by
  have absolute {params : Params} (valid : params.validate = .ok ()) :
      ∀ mount ∈ params.bindMounts, HostPath.isAbsolute mount.containerDir = true :=
    fun mount mem => (Params.validate_eq_ok_iff.mp valid).2.1 mount.containerDir
      (List.mem_append_left _ (List.mem_map_of_mem mem))
  -- The same field is clear in every mount, so any two of them can be told apart by it.
  obtain ⟨isClear, allClear, apart⟩ : ∃ isClear : BindMount → Prop,
      (∀ mount ∈ params.bindMounts ++ params'.bindMounts, isClear mount) ∧
        ∀ mount mount', isClear mount → isClear mount' →
          (¬ HoldsColonSlash mount.hostDir ∧ ¬ HoldsColonSlash mount'.hostDir) ∨
            (¬ HoldsColonSlash mount.containerDir ∧ ¬ HoldsColonSlash mount'.containerDir) := by
    rcases clear with clear | clear
    · exact ⟨_, clear, fun _ _ first second => Or.inl ⟨first, second⟩⟩
    · exact ⟨_, clear, fun _ _ first second => Or.inr ⟨first, second⟩⟩
  refine map_inj_of_mem
    (fun mount => HostPath.isAbsolute mount.containerDir = true ∧ isClear mount) ?_ ?_ ?_ same
  · exact fun mount mem => ⟨absolute valid mount mem, allClear mount (List.mem_append_left _ mem)⟩
  · exact fun mount mem => ⟨absolute valid' mount mem, allClear mount (List.mem_append_right _ mem)⟩
  · exact fun mount mount' first second =>
      volumeText_inj first.1 second.1 (apart mount mount' first.2 second.2)

/-- The arguments of a creation tell its name, its timeout and whether it removes itself. Unless an
image is named like an option they also tell the image, the command, the ports, the environment and
the temporary file systems; and the labels and the mounts as far as these can be taken apart. -/
theorem createArguments_determine {p q : Params} (alike : Alike p q) :
    p.name = q.name ∧ p.autoRemove = q.autoRemove ∧ p.stopTimeout = q.stopTimeout ∧
    (p.image.text ∉ optionNames → q.image.text ∉ optionNames →
      p.image = q.image ∧ p.command = q.command ∧ p.ports = q.ports ∧ p.env = q.env ∧
      p.tmpfs = q.tmpfs ∧
      ((∀ key ∈ p.labels.keys ++ q.labels.keys, '=' ∉ key.toList) → p.labels = q.labels) ∧
      ((∀ mount ∈ p.bindMounts ++ q.bindMounts, ¬ HoldsColonSlash mount.hostDir) ∨
          (∀ mount ∈ p.bindMounts ++ q.bindMounts, ¬ HoldsColonSlash mount.containerDir) →
        p.bindMounts = q.bindMounts)) := by
  have same := alike.same
  rw [createArguments_eq, createArguments_eq] at same
  obtain ⟨names, removes, timeouts, rest⟩ := front_inj (List.cons.inj same).2
  refine ⟨names, removes, UInt64.toNat_inj.mp (repr_inj.mp timeouts), fun foreign foreign' => ?_⟩
  obtain ⟨optionLists, images, commands⟩ := options_inj (fun _ => name_of_mem_options)
    (fun _ => name_of_mem_options) foreign foreign' rest
  obtain ⟨ports, env, mounts, tmpfs, labels⟩ := valuesOf_options p
  rw [optionLists] at ports env mounts tmpfs labels
  obtain ⟨ports', env', mounts', tmpfs', labels'⟩ := valuesOf_options q
  refine ⟨image_eq_of_text alike.read alike.read' images, commands,
    List.map_injective_iff.mpr publishText_injective (ports.symm.trans ports'),
    env_eq_of_valid alike.valid alike.valid' (env.symm.trans env'), tmpfs.symm.trans tmpfs',
    fun free => ?_, fun clear => ?_⟩
  · exact textMap_eq_of_entryTexts (fun key mem => free key (List.mem_append_left _ mem))
      (fun key mem => free key (List.mem_append_right _ mem)) (labels.symm.trans labels')
  · exact bindMounts_eq_of_valid alike.valid alike.valid' clear (mounts.symm.trans mounts')

/-- Parameters with the name of the image alone. -/
def bareParams (name : String) : Params := .ofImage ⟨none, none, name, none⟩

/-- Parameters that differ in the type of the command, which the engine is not told, and in the
order in which they were put together. -/
theorem createArguments_determine_of_reordered :
    let p := (((bareParams "redis").withEnv "A" "1=2").withEnv "B" "").bind "/srv:ro" "/data"
      .readOnly |>.withLabel "suite" "a=b"
    let q := { (((bareParams "redis").withLabel "suite" "a=b").bind "/srv:ro" "/data"
      .readOnly).withEnv "B" "" |>.withEnv "A" "1=2" with commandType := .exitingImmediately }
    p.image = q.image ∧ p.env = q.env ∧ p.labels = q.labels ∧ p.bindMounts = q.bindMounts := by
  intro p q
  have alike : Alike p q :=
    { read := ⟨"redis", by decide +kernel⟩
      read' := ⟨"redis", by decide +kernel⟩
      valid := by decide +kernel
      valid' := by decide +kernel
      same := by decide +kernel }
  obtain ⟨-, -, -, told⟩ := createArguments_determine alike
  obtain ⟨image, -, -, env, -, labels, mounts⟩ := told (by decide +kernel) (by decide +kernel)
  exact ⟨image, env, labels (by decide +kernel), mounts (Or.inr (by decide +kernel))⟩

/-- Valid parameters that only their arguments confuse: two labels, two mounts, and a port that is
published for one image where another image is named like the option. -/
theorem createArguments_collide :
    (let p := (bareParams "redis").withLabel "a=b" "c"
     let q := (bareParams "redis").withLabel "a" "b=c"
     Alike p q ∧ p.labels ≠ q.labels) ∧
    (let p := (bareParams "redis").bind "/a:/b" "/c" .readWrite
     let q := (bareParams "redis").bind "/a" "/b:/c" .readWrite
     Alike p q ∧ p.bindMounts ≠ q.bindMounts) ∧
    (let p := { bareParams "--publish" with command := ["80/tcp", "redis"] }
     let q := (bareParams "redis").expose 80 .tcp
     Alike p q ∧ p.image ≠ q.image ∧ p.command ≠ q.command ∧ p.ports ≠ q.ports) := by
  have read (name : String) (known : Image.parse name = .ok (bareParams name).image) :
      ∃ s, Image.parse s = .ok (bareParams name).image := ⟨name, known⟩
  have redis := read "redis" (by decide +kernel)
  have option := read "--publish" (by decide +kernel)
  refine ⟨⟨?labels, by decide +kernel⟩, ⟨?mounts, by decide +kernel⟩, ⟨?image, by decide +kernel⟩⟩
  case labels => exact ⟨redis, redis, by decide +kernel, by decide +kernel, by decide +kernel⟩
  case mounts => exact ⟨redis, redis, by decide +kernel, by decide +kernel, by decide +kernel⟩
  case image => exact ⟨option, redis, by decide +kernel, by decide +kernel, by decide +kernel⟩

end Docker

end ContainerFixture
