import ContainerFixture.Proofs.Docker.Encoding

/-!
# The image among the arguments of a creation

The client reads the arguments of a creation from the front. A word that starts with a dash is an
option, and some options take the next word as their value, whatever it is; the first other word is
the image, and what follows it is the command.

Main result: `Docker.readCreation_createArguments_iff`. The client reads the image and the command
of the parameters if, and only if, the text that the image was read from does not start with a dash.
Valid parameters do not rule that out: `Docker.image_taken_for_option`.
-/

namespace ContainerFixture

open Text

/-- Whether a text starts with a dash, so that a client takes it for an option. -/
def IsDashed (text : String) : Prop := text.toList.head? = some '-'

instance : DecidablePred IsDashed := fun text =>
  inferInstanceAs (Decidable (text.toList.head? = some '-'))

/-! ### Images that start with a dash -/

theorem ImageParts.Valid.head?_spelledOut {parts : ImageParts} (valid : parts.Valid) :
    parts.spelledOut.text.head? = parts.text.head? := by
  rw [valid.text_spelledOut]
  cases given : parts.registry with
  | none => rfl
  | some registry =>
    dsimp only
    split
    · rfl
    · -- The default repository is spelled out behind the registry, which is not empty.
      have filled : registry ≠ [] := (valid.registry registry given).1
      rw [ImageParts.text_eq_cons given, List.head?_append_of_ne_nil _ filled,
        List.head?_append_of_ne_nil _ filled]

theorem Image.isDashed_text_iff {s : String} {x : Image} (read : parse s = .ok x) :
    IsDashed x.text ↔ IsDashed (trim s) := by
  obtain ⟨parts, written, text, rfl⟩ := parse_sound read
  have source : (trim s).toList = parts.text := by rw [trim, String.toList_ofList, text]
  rw [IsDashed, IsDashed, source, ImageParts.toList_text_image, written.valid.head?_spelledOut]

namespace Docker

/-! ### How the client reads a creation -/

/-- The options of a creation that take the next word as their value. -/
def valueOptions : List String := "--name" :: "--stop-timeout" :: optionNames

/-- The image and the command behind some options, where the option before may be owed a value. -/
def readWords (owed : Bool) : List String → Option (String × List String)
  | [] => none
  | word :: rest =>
    if owed then readWords false rest
    else if IsDashed word then readWords (decide (word ∈ valueOptions)) rest
    else some (word, rest)

/-- The image and the command that the client reads from the arguments of a creation. -/
def readCreation : List String → Option (String × List String)
  | "create" :: words => readWords false words
  | _ => none

theorem isDashed_of_mem_valueOptions {word : String} (mem : word ∈ valueOptions) :
    IsDashed word := by
  have all : ∀ word ∈ valueOptions, IsDashed word := by decide
  exact all word mem

theorem readWords_dashed {word : String} (dashed : IsDashed word) (rest : List String) :
    readWords false (word :: rest) = readWords (decide (word ∈ valueOptions)) rest := by
  simp [readWords, dashed]

theorem readWords_option {option : String} (mem : option ∈ valueOptions) (value : String)
    (rest : List String) : readWords false (option :: value :: rest) = readWords false rest := by
  rw [readWords_dashed (isDashed_of_mem_valueOptions mem), decide_eq_true mem, readWords,
    if_pos rfl]

theorem readWords_flattened {options : List (String × String)}
    (known : ∀ option ∈ options, option.1 ∈ optionNames) (rest : List String) :
    readWords false (flattened options ++ rest) = readWords false rest := by
  induction options with
  | nil => rfl
  | cons option others ih =>
    -- The value is skipped, also if it starts with a dash.
    have takesValue : option.1 ∈ valueOptions :=
      List.mem_cons_of_mem _ (List.mem_cons_of_mem _ (known option List.mem_cons_self))
    have later := ih fun other mem => known other (List.mem_cons_of_mem _ mem)
    calc
      readWords false (flattened (option :: others) ++ rest)
          = readWords false (option.1 :: option.2 :: (flattened others ++ rest)) := rfl
      _ = readWords false (flattened others ++ rest) := readWords_option takesValue _ _
      _ = readWords false rest := later

/-- Whatever the parameters are, the client comes as far as their image. -/
theorem readCreation_createArguments (params : Params) : readCreation (createArguments params) =
    readWords false (params.image.text :: params.command) := by
  rw [createArguments_eq]
  have timed : ∀ words, readWords false
      ("--stop-timeout" :: params.stopTimeout.toNat.repr :: words) = readWords false words :=
    fun words => readWords_option (by simp [valueOptions]) _ _
  have removed : ∀ words, readWords false ((if params.autoRemove then ["--rm"] else []) ++ words) =
      readWords false words := by
    intro words
    split
    · -- This option stands alone.
      exact readWords_dashed (by decide) words
    · rfl
  have named : ∀ words, readWords false
      ((params.name.map fun name => ["--name", name]).getD [] ++ words) =
      readWords false words := by
    intro words
    cases params.name with
    | none => rfl
    | some name => exact readWords_option (by simp [valueOptions]) name words
  rw [readCreation, named, removed, timed, readWords_flattened fun _ => name_of_mem_options]

theorem not_isDashed_of_readWords {owed : Bool} {words : List String} {image : String}
    {command : List String} (read : readWords owed words = some (image, command)) :
    ¬ IsDashed image := by
  induction words generalizing owed with
  | nil => cases read
  | cons word rest ih =>
    rw [readWords] at read
    split at read
    · exact ih read
    · split at read
      · exact ih read
      · next plain =>
        obtain ⟨rfl, -⟩ := Prod.mk.inj (Option.some.inj read)
        exact plain

/-! ### Main result -/

/-- The client reads the image and the command of the parameters just when the reference of the
image does not start with a dash. Otherwise it takes the image for an option and looks for an image
in the command. -/
theorem readCreation_createArguments_iff {s : String} {params : Params}
    (read : Image.parse s = .ok params.image) :
    (readCreation (createArguments params) = some (params.image.text, params.command) ↔
      ¬ IsDashed (trim s)) ∧
    (IsDashed (trim s) → readCreation (createArguments params) =
      readWords (decide (params.image.text ∈ valueOptions)) params.command) := by
  rw [← Image.isDashed_text_iff read, readCreation_createArguments]
  refine ⟨⟨not_isDashed_of_readWords, fun plain => ?_⟩, fun dashed => readWords_dashed dashed _⟩
  rw [readWords, if_neg Bool.false_ne_true, if_neg plain]

/-- A name, a path and a command that look like options, around an image that does not. -/
theorem readCreation_createArguments_of_dashes :
    let params := { (bareParams "redis-7").withLabel "-x" "--rm" with
      name := some "--privileged", command := ["--port", "6380"] }
    Image.parse " redis-7\n" = .ok params.image ∧
      readCreation (createArguments params) = some ("redis-7", ["--port", "6380"]) := by
  intro params
  have read : Image.parse " redis-7\n" = .ok params.image := by decide +kernel
  exact ⟨read, (readCreation_createArguments_iff read).1.mpr (by decide +kernel)⟩

/-- A reference that is an option of the client. The parameters are valid, and the client creates a
privileged container of the image that stands first in the command. -/
theorem image_taken_for_option :
    let params := { bareParams "--privileged" with command := ["alpine", "sh"] }
    Image.parse "--privileged" = .ok params.image ∧ params.validate = .ok () ∧
      readCreation (createArguments params) = some ("alpine", ["sh"]) ∧
      (params.image.text, params.command) = ("--privileged", ["alpine", "sh"]) := by
  decide +kernel

end Docker

end ContainerFixture
