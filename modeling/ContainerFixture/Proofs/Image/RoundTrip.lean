import ContainerFixture.Proofs.Image.Grammar
import Mathlib.Data.String.Basic

/-!
# Written references read back

Main result: `Image.parse_canonical`. The written form of an image that was read is read as the same
image, and it is the text that was read but for the blanks around it and a default repository, which
is spelled out. Giving an image another tag keeps all of this.

The invariant is `Image.Written`: the image is that of parts whose text is valid and does not start
with a blank. Reading establishes it, another tag preserves it, and it suffices for reading back.
-/

namespace ContainerFixture

open Text

namespace ImageParts

variable {parts : ImageParts}

/-- Parts of a reference as they stand in a text without blanks around it. -/
structure Written (parts : ImageParts) : Prop where
  valid : parts.Valid
  front : ∀ c ∈ parts.path.head?, isBlank c = false

/-- The same parts with the default repository written out. -/
def spelledOut (parts : ImageParts) : ImageParts :=
  if parts.registry.isSome ∧ parts.repository = [] then
    { parts with repository := [Image.defaultRepository.toList] }
  else parts

/-! ### The ends of a text -/

theorem Valid.head?_text (valid : parts.Valid) : parts.text.head? = parts.path.head? := by
  cases path : parts.path with
  | nil => exact absurd path valid.path_ne_nil
  | cons c rest => simp [text, path]

theorem path_ends (parts : ImageParts) : ∃ front, parts.path = front ++ parts.name := by
  rw [path, components, ← List.append_assoc]
  -- A name alone has no slash before it.
  by_cases alone : parts.registry.toList ++ parts.repository = []
  · exact ⟨[], by simp [alone]⟩
  · exact ⟨_ ++ ['/'], by rw [intercalate_concat '/' alone, List.append_assoc]; rfl⟩

/-- A reference ends with its name, its tag or the hexadecimal part of its digest. -/
theorem Valid.text_end (valid : parts.Valid) :
    ∃ front last, parts.text = front ++ last ∧ last ≠ [] ∧ ∀ c ∈ last, PlainChar c := by
  cases version : parts.version with
  | none =>
    have named := valid.components parts.name (by simp)
    obtain ⟨front, path⟩ := parts.path_ends
    refine ⟨front, parts.name, by simp [text, version, path], fun empty => ?_,
      fun c => Image.plainChar_of_mem_component named⟩
    simp [empty, Image.isComponent] at named
  | some v =>
    have valid := valid.version v version
    cases v with
    | tag name =>
      refine ⟨parts.path ++ [':'], name.toList, by simp [text, version], fun empty => ?_,
        fun c => Image.plainChar_of_mem_tag valid⟩
      simp [Version.Valid, empty, Image.isTag] at valid
    | digest algorithm hex =>
      refine ⟨parts.path ++ '@' :: (algorithm.toList ++ [':']), hex.toList,
        by simp [text, version], fun empty => ?_, fun c => Image.plainChar_of_mem_hex valid.2⟩
      simp [Version.Valid, empty, Image.isHex] at valid

theorem Written.trimmed (written : parts.Written) : Trimmed parts.text := by
  refine ⟨by simpa [written.valid.head?_text] using written.front, fun c final => ?_⟩
  -- The last character of the text is the last of its last part, which is not empty.
  obtain ⟨front, last, whole, present, plain⟩ := written.valid.text_end
  rw [whole, List.getLast?_append_of_ne_nil _ present] at final
  exact (plain c (List.mem_of_getLast? final)).filled

/-! ### The written form of an image -/

theorem spelledOut_registry : parts.spelledOut.registry = parts.registry := by
  unfold spelledOut
  split <;> rfl

theorem image_spelledOut : parts.spelledOut.image = parts.image := by
  unfold spelledOut
  split
  · next alone =>
    obtain ⟨registry, given⟩ := Option.isSome_iff_exists.mp alone.1
    simp [image, alone.2, given]
  · rfl

theorem Valid.spelledOut (valid : parts.Valid) : parts.spelledOut.Valid := by
  unfold ImageParts.spelledOut
  split
  · next alone =>
    refine
      { registry := valid.registry
        components := fun component mem => ?_
        unambiguous := fun absent => ?_
        version := valid.version }
    · -- The default repository is a component like any other.
      rcases List.mem_append.mp mem with default | name
      · rw [List.mem_singleton.mp default]
        decide
      · exact valid.components component (List.mem_append_right _ name)
    · have absent : parts.registry = none := absent
      simp [absent] at alone
  · exact valid

theorem Valid.head?_path (valid : parts.Valid) {registry : List Char}
    (given : parts.registry = some registry) : parts.path.head? = registry.head? := by
  rw [path_eq_cons given, List.head?_append_of_ne_nil _ (valid.registry registry given).1]

theorem Written.spelledOut (written : parts.Written) : parts.spelledOut.Written := by
  refine ⟨written.valid.spelledOut, ?_⟩
  cases given : parts.registry with
  | none => simpa [ImageParts.spelledOut, given] using written.front
  | some registry =>
    -- Both paths start with the registry.
    have same : parts.spelledOut.path.head? = parts.path.head? := by
      rw [written.valid.head?_path given,
        written.valid.spelledOut.head?_path (spelledOut_registry.trans given)]
    rw [same]
    exact written.front

theorem toList_text_image : parts.image.text.toList = parts.spelledOut.text := by
  unfold spelledOut
  cases given : parts.registry with
  | none =>
    by_cases alone : parts.repository = []
    · simp [Image.text, Image.suffix, image, text, path, components, given, alone]
    · simp [Image.text, Image.suffix, image, text, path, components, given, alone,
        intercalate_concat]
  | some registry =>
    by_cases alone : parts.repository = []
    · simp [Image.text, Image.suffix, image, text, path_eq_cons, given, alone]
    · simp [Image.text, Image.suffix, image, text, path_eq_cons, given, alone, intercalate_concat]

/-- What follows the slash of a registry. -/
def afterRegistry (parts : ImageParts) : List Char :=
  ['/'].intercalate (parts.repository ++ [parts.name]) ++ Image.suffix parts.version

theorem text_eq_cons {registry : List Char} (given : parts.registry = some registry) :
    parts.text = registry ++ '/' :: parts.afterRegistry := by
  simp [text, path_eq_cons given, afterRegistry]

theorem Valid.slash_not_mem_suffix (valid : parts.Valid) :
    '/' ∉ Image.suffix parts.version := by
  cases version : parts.version with
  | none => simp
  | some v =>
    have valid := valid.version v version
    cases v with
    | tag name =>
      simp only [Image.suffix_tag, List.mem_cons, not_or]
      exact ⟨by decide, fun mem => (Image.plainChar_of_mem_tag valid mem).slash rfl⟩
    | digest algorithm hex =>
      simp only [Image.suffix_digest, List.mem_cons, List.mem_append, not_or]
      exact ⟨by decide, fun mem => (Image.plainChar_of_mem_algorithm valid.1 mem).slash rfl,
        by decide, fun mem => (Image.plainChar_of_mem_hex valid.2 mem).slash rfl⟩

/-- Another slash after that of the registry is the sign of a repository. -/
theorem Valid.slash_mem_afterRegistry_iff (valid : parts.Valid) :
    '/' ∈ parts.afterRegistry ↔ parts.repository ≠ [] := by
  have named : '/' ∉ parts.name := fun mem => (valid.plainChar_of_mem (by simp) mem).slash rfl
  rw [afterRegistry, List.mem_append, or_iff_left valid.slash_not_mem_suffix]
  by_cases alone : parts.repository = []
  · simp [alone, named]
  · simp [intercalate_concat '/' alone, alone]

/-- The written form of an image puts the default repository after a registry that is followed by
no other slash, and is otherwise the text that the image was read from. -/
theorem Valid.text_spelledOut (valid : parts.Valid) : parts.spelledOut.text =
    match parts.registry with
    | none => parts.text
    | some registry =>
      if '/' ∈ parts.afterRegistry then parts.text
      else registry ++ '/' :: (Image.defaultRepository.toList ++ '/' :: parts.afterRegistry) := by
  cases given : parts.registry with
  | none => simp [ImageParts.spelledOut, given]
  | some registry =>
    by_cases alone : parts.repository = []
    · have slashless : '/' ∉ parts.afterRegistry := by
        rw [valid.slash_mem_afterRegistry_iff, not_not]
        exact alone
      rw [text_eq_cons (spelledOut_registry.trans given)]
      simp only [slashless, if_false]
      simp [ImageParts.spelledOut, given, alone, afterRegistry, List.intercalate_cons_cons]
    · have slash : '/' ∈ parts.afterRegistry := valid.slash_mem_afterRegistry_iff.mpr alone
      simp [slash, ImageParts.spelledOut, alone]

end ImageParts

namespace Image

/-! ### Images that were read -/

/-- An image that some reference stands for. -/
def Written (x : Image) : Prop := ∃ parts : ImageParts, parts.Written ∧ parts.image = x

theorem parse_sound {s : String} {x : Image} (read : parse s = .ok x) :
    ∃ parts : ImageParts, parts.Written ∧ parts.text = trimBlank s.toList ∧ parts.image = x := by
  obtain ⟨parts, valid, text, image⟩ := parseTrimmed_sound read
  have front := (trimmed_trimBlank s.toList).1
  rw [← text, valid.head?_text] at front
  exact ⟨parts, ⟨valid, front⟩, text, image⟩

theorem Written.parse_text {x : Image} (written : x.Written) : parse x.text = .ok x := by
  obtain ⟨parts, written, rfl⟩ := written
  calc
    parse parts.image.text = parseTrimmed parts.spelledOut.text := by
      rw [parse, ImageParts.toList_text_image, written.spelledOut.trimmed.trimBlank_eq]
    _ = .ok parts.spelledOut.image := parseTrimmed_complete written.spelledOut.valid
    _ = .ok parts.image := by rw [ImageParts.image_spelledOut]

/-! ### Tags -/

/-- One to 128 bytes of letters, digits, `_`, `.` and `-`. -/
def IsTagText (tag : String) : Prop :=
  1 ≤ tag.utf8ByteSize ∧ tag.utf8ByteSize ≤ 128 ∧ ∀ c ∈ tag.toList,
    ('A' ≤ c ∧ c ≤ 'Z') ∨ ('a' ≤ c ∧ c ≤ 'z') ∨ ('0' ≤ c ∧ c ≤ '9') ∨ c = '_' ∨ c = '.' ∨ c = '-'

/-- The characters of tags take one byte each. -/
theorem utf8ByteSize_of_isTagChar {tag : String} (valid : ∀ c ∈ tag.toList, isTagChar c = true) :
    tag.utf8ByteSize = tag.toList.length := by
  rw [← String.utf8Len_toList]
  -- On any list of such characters, by induction.
  generalize tag.toList = cs at valid
  induction cs with
  | nil => rfl
  | cons c rest ih =>
    have range := toNat_of_isTagChar (valid c List.mem_cons_self)
    have single : c.utf8Size = 1 := by
      rw [Char.utf8Size_eq_one_iff, UInt32.le_iff_toNat_le]
      exact le_trans range.2 (by decide)
    rw [String.utf8Len_cons, ih fun d mem => valid d (List.mem_cons_of_mem _ mem), single,
      List.length_cons]

theorem isTag_iff {tag : String} : isTag tag.toList = true ↔ IsTagText tag := by
  have characters : tag.toList.all isTagChar = true ↔ ∀ c ∈ tag.toList, isTagChar c = true :=
    List.all_eq_true
  simp only [isTag, Bool.and_eq_true, characters, decide_eq_true_eq, IsTagText, ← isTagChar_iff]
  constructor
  · rintro ⟨⟨present, valid⟩, short⟩
    rw [utf8ByteSize_of_isTagChar valid]
    exact ⟨by simpa [Nat.one_le_iff_ne_zero] using present, short, valid⟩
  · rintro ⟨present, short, valid⟩
    rw [utf8ByteSize_of_isTagChar valid] at present short
    exact ⟨⟨by simpa [Nat.one_le_iff_ne_zero] using present, valid⟩, short⟩

/-- Every tag text can be given to every image, and nothing else can; only the version changes. -/
theorem withTag_eq_ok_iff {x y : Image} {tag : String} :
    x.withTag tag = .ok y ↔ IsTagText tag ∧ y = { x with version := some (.tag tag) } := by
  rw [← isTag_iff, Image.withTag]
  constructor
  · intro retagged
    cases read : readTag tag.toList with
    | error cause => simp [read, Except.map] at retagged
    | ok version =>
      obtain ⟨valid, rfl⟩ := readTag_eq_ok_iff.mp read
      simp only [read, Except.map, Except.ok.injEq, String.ofList_toList] at retagged
      exact ⟨valid, retagged.symm⟩
  · rintro ⟨valid, rfl⟩
    have read : readTag tag.toList = .ok (.tag tag) :=
      readTag_eq_ok_iff.mpr ⟨valid, by rw [String.ofList_toList]⟩
    simp [read, Except.map]

theorem Written.withTag {x y : Image} {tag : String} (written : x.Written)
    (retagged : x.withTag tag = .ok y) : y.Written := by
  obtain ⟨parts, written, rfl⟩ := written
  obtain ⟨valid, rfl⟩ := withTag_eq_ok_iff.mp retagged
  refine ⟨{ parts with version := some (.tag tag) }, ⟨?_, written.front⟩, rfl⟩
  refine { written.valid with version := fun version given => ?_ }
  cases given
  exact isTag_iff.mpr valid

theorem Written.withTags {x y : Image} {tags : List String} (written : x.Written)
    (retagged : tags.foldlM Image.withTag x = .ok y) : y.Written := by
  induction tags generalizing x with
  | nil =>
    cases retagged
    exact written
  | cons tag rest ih =>
    rw [List.foldlM_cons] at retagged
    cases first : x.withTag tag with
    | error cause => simp [first, bind, Except.bind] at retagged
    | ok z => exact ih (written.withTag first) (by simpa [first, bind, Except.bind] using retagged)

/-! ### Main result -/

/-- The written form of an image that was read: it is read as the same image; it is the text that
was read, trimmed, with `library/` put in after a registry that is followed by no other slash; other
tags keep it so, and every tag text can be given; and it tells images apart. -/
theorem parse_canonical {s : String} {x : Image} (accepted : parse s = .ok x) :
    parse x.text = .ok x ∧
    (match x.registry with
      | none => x.text = trim s
      | some registry => ∃ rest, trim s = registry ++ "/" ++ rest ∧
        x.text = if '/' ∈ rest.toList then trim s else registry ++ "/" ++ "library/" ++ rest) ∧
    (∀ (tags : List String) (y : Image), tags.foldlM withTag x = .ok y → parse y.text = .ok y) ∧
    (∀ (y z : Image) (tag : String), y.withTag tag = .ok z ↔
      IsTagText tag ∧ z = { y with version := some (.tag tag) }) ∧
    ∀ (s' : String) (x' : Image), parse s' = .ok x' → (x = x' ↔ x.text = x'.text) := by
  obtain ⟨parts, written, text, image⟩ := parse_sound accepted
  have reads : x.Written := ⟨parts, written, image⟩
  refine ⟨reads.parse_text, ?_, fun tags y retagged => (reads.withTags retagged).parse_text,
    fun y z tag => withTag_eq_ok_iff, fun s' x' accepted' => ?_⟩
  · -- The registry decides whether anything is put in.
    have source : trim s = String.ofList parts.text := by rw [trim, text]
    have form : x.text = String.ofList parts.spelledOut.text := by
      rw [← image, ← ImageParts.toList_text_image, String.ofList_toList]
    have registry : x.registry = parts.registry.map String.ofList := by rw [← image]; rfl
    rw [source, form, registry, written.valid.text_spelledOut]
    cases given : parts.registry with
    | none => rfl
    | some registry =>
      refine ⟨String.ofList parts.afterRegistry, ?_, ?_⟩
      · rw [ImageParts.text_eq_cons given]
        simp [← String.toList_inj]
      · by_cases slash : '/' ∈ parts.afterRegistry
        · simp [slash]
        · simp [slash, ← String.toList_inj, defaultRepository]
  · obtain ⟨parts', written', -, image'⟩ := parse_sound accepted'
    have reads' : x'.Written := ⟨parts', written', image'⟩
    refine ⟨fun same => congrArg Image.text same, fun same => ?_⟩
    -- The common text is read as the one and as the other.
    have read : parse x.text = .ok x' := same ▸ reads'.parse_text
    rw [reads.parse_text] at read
    exact Except.ok.inj read

/-- A reference with blanks around it and a registry that is followed by a bare name. -/
theorem parse_canonical_of_padded_localhost :
    parse " localhost:5000/api:2.4\n" =
      .ok ⟨some "localhost:5000", some "library", "api", some (.tag "2.4")⟩ ∧
    parse "localhost:5000/library/api:2.4" =
      .ok ⟨some "localhost:5000", some "library", "api", some (.tag "2.4")⟩ := by
  have read : parse " localhost:5000/api:2.4\n" =
      .ok ⟨some "localhost:5000", some "library", "api", some (.tag "2.4")⟩ := by decide +kernel
  exact ⟨read, (parse_canonical read).1⟩

end Image

end ContainerFixture
