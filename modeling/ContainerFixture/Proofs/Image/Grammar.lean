import ContainerFixture.Image
import Mathlib.Data.Char
import Mathlib.Data.List.Basic

/-!
# The grammar of image references

What a written reference consists of, said without a reader. Main results: `parseTrimmed_sound` and
`parseTrimmed_complete`. A text without blanks around it is read as an image exactly when it is the
text of valid parts, and then the image is that of the parts.

The one place where a text could be cut in two ways is the colon, which stands in registries and
before tags. `splitVersion_eq_ok_iff` settles it: a colon that has a slash after it starts no tag.
-/

namespace ContainerFixture

open Text

/-! ### The alphabet -/

/-- A character that stands for itself in a reference: it separates no parts and is not blank. -/
structure PlainChar (c : Char) : Prop where
  slash : c ≠ '/'
  atSign : c ≠ '@'
  colon : c ≠ ':'
  filled : isBlank c = false

namespace Image

theorem isTagChar_iff {c : Char} : isTagChar c = true ↔
    ('A' ≤ c ∧ c ≤ 'Z') ∨ ('a' ≤ c ∧ c ≤ 'z') ∨ ('0' ≤ c ∧ c ≤ '9') ∨
      c = '_' ∨ c = '.' ∨ c = '-' := by
  have ranges : c.isAlphanum = ((decide ('A' ≤ c ∧ c ≤ 'Z') || 'a' ≤ c && c ≤ 'z') ||
      '0' ≤ c && c ≤ '9') := rfl
  simp [isTagChar, ranges, or_assoc]

theorem toNat_of_isTagChar {c : Char} (tag : isTagChar c = true) :
    0x2D ≤ c.toNat ∧ c.toNat ≤ 0x7A := by
  rcases isTagChar_iff.mp tag with ⟨low, high⟩ | ⟨low, high⟩ | ⟨low, high⟩ | rfl | rfl | rfl
  · exact ⟨le_trans (by decide) low, le_trans high (by decide)⟩
  · exact ⟨le_trans (by decide) low, le_trans high (by decide)⟩
  · exact ⟨le_trans (by decide) low, le_trans high (by decide)⟩
  · decide
  · decide
  · decide

theorem plainChar_of_isTagChar {c : Char} (tag : isTagChar c = true) : PlainChar c := by
  have distinct : ∀ d : Char, isTagChar d = false → c ≠ d := by
    rintro d foreign rfl
    rw [tag] at foreign
    cases foreign
  have range := toNat_of_isTagChar tag
  exact ⟨distinct '/' (by decide), distinct '@' (by decide), distinct ':' (by decide),
    isBlank_of_visible (by omega) (by omega)⟩

theorem plainChar_of_isComponentChar {c : Char} (component : isComponentChar c = true) :
    PlainChar c := by
  have ranges : c.isAlphanum = (c.isUpper || c.isLower || c.isDigit) := rfl
  apply plainChar_of_isTagChar
  simp only [isComponentChar, isTagChar, ranges, Bool.or_eq_true] at component ⊢
  grind

theorem plainChar_of_isHexChar {c : Char} (hex : isHexChar c = true) : PlainChar c := by
  apply plainChar_of_isTagChar
  rw [isTagChar_iff]
  simp only [isHexChar, Char.isDigit, Bool.or_eq_true, Bool.and_eq_true, decide_eq_true_eq] at hex
  rcases hex with (⟨low, high⟩ | ⟨low, high⟩) | ⟨low, high⟩
  · exact Or.inr (Or.inr (Or.inl ⟨low, high⟩))
  · exact Or.inr (Or.inl ⟨low, le_trans high (by decide)⟩)
  · exact Or.inl ⟨low, le_trans high (by decide)⟩

theorem plainChar_of_isAlgorithmChar {c : Char} (algorithm : isAlgorithmChar c = true) :
    PlainChar c := by
  -- The plus sign is the only one that no tag may hold.
  by_cases plus : c = '+'
  · subst plus
    exact ⟨by decide, by decide, by decide, by decide⟩
  · apply plainChar_of_isComponentChar
    simp only [isAlgorithmChar, isComponentChar, Bool.or_eq_true] at algorithm ⊢
    grind

end Image

/-! ### Versions -/

/-- A version whose parts are over their alphabets. -/
def Version.Valid : Version → Prop
  | tag name => Image.isTag name.toList
  | digest algorithm hex => Image.isAlgorithm algorithm.toList ∧ Image.isHex hex.toList

namespace Image

/-- What follows the path of a reference. -/
def suffix (version : Option Version) : List Char := ((version.map versionText).getD "").toList

@[simp] theorem suffix_none : suffix none = [] := rfl

@[simp] theorem suffix_tag (name : String) : suffix (some (.tag name)) = ':' :: name.toList := by
  simp [suffix, versionText]

@[simp] theorem suffix_digest (algorithm hex : String) :
    suffix (some (.digest algorithm hex)) = '@' :: (algorithm.toList ++ ':' :: hex.toList) := by
  simp [suffix, versionText]

theorem plainChar_of_mem_tag {cs : List Char} (tag : isTag cs = true) {c : Char} (mem : c ∈ cs) :
    PlainChar c := by
  simp only [isTag, Bool.and_eq_true, List.all_eq_true] at tag
  exact plainChar_of_isTagChar (tag.1.2 c mem)

theorem plainChar_of_mem_component {cs : List Char} (component : isComponent cs = true) {c : Char}
    (mem : c ∈ cs) : PlainChar c := by
  simp only [isComponent, Bool.and_eq_true, List.all_eq_true] at component
  exact plainChar_of_isComponentChar (component.2 c mem)

theorem plainChar_of_mem_algorithm {cs : List Char} (algorithm : isAlgorithm cs = true) {c : Char}
    (mem : c ∈ cs) : PlainChar c := by
  simp only [isAlgorithm, Bool.and_eq_true, List.all_eq_true] at algorithm
  exact plainChar_of_isAlgorithmChar (algorithm.2 c mem)

theorem plainChar_of_mem_hex {cs : List Char} (hex : isHex cs = true) {c : Char} (mem : c ∈ cs) :
    PlainChar c := by
  simp only [isHex, Bool.and_eq_true, List.all_eq_true] at hex
  exact plainChar_of_isHexChar (hex.2 c mem)

/-- After every colon of a path there is a slash, so that no colon starts a tag. -/
def TagFree (path : List Char) : Prop :=
  ∀ before after, path = before ++ ':' :: after → '/' ∈ after

/-- It is enough to look behind the last colon. -/
theorem tagFree_iff {path : List Char} :
    TagFree path ↔ ∀ before after, atLast ':' path = some (before, after) → '/' ∈ after := by
  constructor
  · intro tagFree before after cut
    exact tagFree before after (atLast_eq_some cut)
  · intro behindLast before after whole
    cases cut : atLast ':' path with
    | none =>
      have colonless := atLast_eq_none_iff.mp cut
      simp [whole] at colonless
    | some parts =>
      obtain ⟨whole', colonless⟩ := atLast_eq_some_iff.mp cut
      have slash := behindLast parts.1 parts.2 cut
      -- What follows any colon ends with what follows the last one.
      rcases List.suffix_or_suffix_of_suffix ⟨parts.1, whole'.symm⟩ ⟨before, whole.symm⟩ with
        ends | ends
      · simpa using ends.subset (List.mem_cons_of_mem _ slash)
      · rcases List.suffix_cons_iff.mp ends with same | inner
        · obtain ⟨-, rfl⟩ := List.cons.inj same
          exact slash
        · exact absurd (inner.subset List.mem_cons_self) colonless

theorem readTag_eq_ok_iff {cs : List Char} {version : Version} :
    readTag cs = .ok version ↔ isTag cs = true ∧ version = .tag (String.ofList cs) := by
  unfold readTag
  split
  · next valid => simp [valid, eq_comm]
  · next invalid => simp [invalid]

theorem readDigest_eq_ok_iff {cs : List Char} {version : Version} :
    readDigest cs = .ok version ↔ ∃ algorithm hex, cs = algorithm ++ ':' :: hex ∧
      isAlgorithm algorithm = true ∧ isHex hex = true ∧
      version = .digest (String.ofList algorithm) (String.ofList hex) := by
  constructor
  · intro read
    unfold readDigest at read
    split at read
    · next algorithm hex cut =>
      split at read
      · next valid =>
        simp only [Bool.and_eq_true] at valid
        simp only [Except.ok.injEq] at read
        exact ⟨algorithm, hex, (atFirst_eq_some_iff.mp cut).1, valid.1, valid.2, read.symm⟩
      · cases read
    · cases read
  · rintro ⟨algorithm, hex, rfl, isAlgorithm, isHex, rfl⟩
    have cut : atFirst ':' (algorithm ++ ':' :: hex) = some (algorithm, hex) :=
      atFirst_eq_some_iff.mpr
        ⟨rfl, fun mem => (plainChar_of_mem_algorithm isAlgorithm mem).colon rfl⟩
    simp [readDigest, cut, isAlgorithm, isHex]

theorem splitVersion_sound {cs path : List Char} {version : Option Version}
    (split : splitVersion cs = .ok (path, version)) : cs = path ++ suffix version ∧ '@' ∉ path ∧
      (∀ v ∈ version, v.Valid) ∧ (version = none → TagFree path) := by
  unfold splitVersion at split
  split at split
  · -- There is an at sign, and a digest behind it.
    next before digest cut =>
    obtain ⟨whole, absent⟩ := atFirst_eq_some_iff.mp cut
    cases read : readDigest digest with
    | error cause => simp [read, Except.map] at split
    | ok v =>
      simp only [read, Except.map, Except.ok.injEq, Prod.mk.injEq] at split
      obtain ⟨rfl, rfl⟩ := split
      obtain ⟨algorithm, hex, rfl, valid, validHex, rfl⟩ := readDigest_eq_ok_iff.mp read
      refine ⟨by simpa using whole, absent, ?_, by simp⟩
      simp [Version.Valid, valid, validHex]
  · next none =>
    have absent := atFirst_eq_none_iff.mp none
    split at split
    · next before tag cut =>
      split at split
      · -- The last colon stands before a slash.
        next slash =>
        simp only [Except.ok.injEq, Prod.mk.injEq] at split
        obtain ⟨rfl, rfl⟩ := split
        refine ⟨by simp, absent, by simp, fun _ => tagFree_iff.mpr fun first after again => ?_⟩
        obtain ⟨-, rfl⟩ := Prod.mk.inj (Option.some.inj (cut.symm.trans again))
        exact slash
      · -- A tag stands behind the last colon.
        cases read : readTag tag with
        | error cause => simp [read, Except.map] at split
        | ok v =>
          simp only [read, Except.map, Except.ok.injEq, Prod.mk.injEq] at split
          obtain ⟨rfl, rfl⟩ := split
          obtain ⟨valid, rfl⟩ := readTag_eq_ok_iff.mp read
          have whole := atLast_eq_some cut
          rw [whole, List.mem_append, not_or] at absent
          refine ⟨by simpa using whole, absent.1, ?_, by simp⟩
          simp [Version.Valid, valid]
    · next colonless =>
      simp only [Except.ok.injEq, Prod.mk.injEq] at split
      obtain ⟨rfl, rfl⟩ := split
      refine ⟨by simp, absent, by simp, fun _ => tagFree_iff.mpr fun before after cut => ?_⟩
      rw [colonless] at cut
      cases cut

theorem splitVersion_untagged {path : List Char} (absent : '@' ∉ path) (tagFree : TagFree path) :
    splitVersion path = .ok (path, none) := by
  have uncut : atFirst '@' path = none := atFirst_eq_none_iff.mpr absent
  simp only [splitVersion, uncut]
  cases cut : atLast ':' path with
  | none => rfl
  | some parts =>
    have slash : '/' ∈ parts.2 := tagFree_iff.mp tagFree parts.1 parts.2 cut
    simp [slash]

theorem splitVersion_suffix {path : List Char} (absent : '@' ∉ path) {version : Version}
    (valid : version.Valid) :
    splitVersion (path ++ suffix (some version)) = .ok (path, some version) := by
  cases version with
  | tag name =>
    have plain : ∀ c ∈ name.toList, PlainChar c := fun c => plainChar_of_mem_tag valid
    have uncut : atFirst '@' (path ++ ':' :: name.toList) = none := by
      rw [atFirst_eq_none_iff]
      simp only [List.mem_append, List.mem_cons, not_or]
      exact ⟨absent, by decide, fun mem => (plain _ mem).atSign rfl⟩
    have cut : atLast ':' (path ++ ':' :: name.toList) = some (path, name.toList) :=
      atLast_eq_some_iff.mpr ⟨rfl, fun mem => (plain _ mem).colon rfl⟩
    have slashless : '/' ∉ name.toList := fun mem => (plain _ mem).slash rfl
    have read : readTag name.toList = .ok (.tag name) :=
      readTag_eq_ok_iff.mpr ⟨valid, by simp⟩
    simp [splitVersion, uncut, cut, slashless, read, Except.map]
  | digest algorithm hex =>
    have cut : atFirst '@' (path ++ '@' :: (algorithm.toList ++ ':' :: hex.toList)) =
        some (path, algorithm.toList ++ ':' :: hex.toList) :=
      atFirst_eq_some_iff.mpr ⟨rfl, absent⟩
    have read : readDigest (algorithm.toList ++ ':' :: hex.toList) =
        .ok (.digest algorithm hex) :=
      readDigest_eq_ok_iff.mpr ⟨_, _, rfl, valid.1, valid.2, by simp⟩
    simp [splitVersion, cut, read, Except.map]

/-- A text splits into a path and a version exactly when it is the one followed by the other, no at
sign stands in the path, and no colon of the path could start a tag when there is no version. -/
theorem splitVersion_eq_ok_iff {cs path : List Char} {version : Option Version} :
    splitVersion cs = .ok (path, version) ↔ cs = path ++ suffix version ∧ '@' ∉ path ∧
      (∀ v ∈ version, v.Valid) ∧ (version = none → TagFree path) := by
  refine ⟨splitVersion_sound, ?_⟩
  rintro ⟨rfl, absent, valid, tagFree⟩
  cases version with
  | none => simpa using splitVersion_untagged absent (tagFree rfl)
  | some version => exact splitVersion_suffix absent (valid version rfl)

end Image

/-! ### Parts -/

/-- The parts of a written reference, which may name a registry and no repository. -/
structure ImageParts where
  registry : Option (List Char)
  /-- The components between the registry and the name. -/
  repository : List (List Char)
  name : List Char
  version : Option Version

namespace ImageParts

/-- The stretches between slashes. -/
def components (parts : ImageParts) : List (List Char) :=
  parts.registry.toList ++ (parts.repository ++ [parts.name])

/-- The text up to the version. -/
def path (parts : ImageParts) : List Char := ['/'].intercalate parts.components

def text (parts : ImageParts) : List Char := parts.path ++ Image.suffix parts.version

/-- The image that the parts stand for: a registry alone stands for its default repository. -/
def image (parts : ImageParts) : Image where
  registry := parts.registry.map String.ofList
  repository :=
    if parts.repository = [] then parts.registry.map fun _ => Image.defaultRepository
    else some (String.ofList (['/'].intercalate parts.repository))
  name := String.ofList parts.name
  version := parts.version

/-- Whether the parts are those of some reference. -/
structure Valid (parts : ImageParts) : Prop where
  registry : ∀ registry ∈ parts.registry, registry ≠ [] ∧ '/' ∉ registry ∧ '@' ∉ registry ∧
    Image.isRegistry registry = true
  components : ∀ component ∈ parts.repository ++ [parts.name], Image.isComponent component = true
  -- A first component that could be a registry is one.
  unambiguous : parts.registry = none →
    ∀ first ∈ parts.repository.head?, Image.isRegistry first = false
  version : ∀ version ∈ parts.version, version.Valid

theorem path_eq_cons {parts : ImageParts} {registry : List Char}
    (given : parts.registry = some registry) :
    parts.path = registry ++ '/' :: ['/'].intercalate (parts.repository ++ [parts.name]) := by
  cases rest : parts.repository ++ [parts.name] with
  | nil => simp at rest
  | cons first others => simp [path, components, given, rest, List.intercalate_cons_cons]

end ImageParts

namespace Image

/-! ### Reading -/

theorem repositoryOf_eq_ok_iff {registry : Option (List Char)} {components : List (List Char)}
    {repository : Option String} : repositoryOf registry components = .ok repository ↔
      (∀ component ∈ components, isComponent component = true) ∧
      repository = if components = [] then registry.map fun _ => defaultRepository
        else some (String.ofList (['/'].intercalate components)) := by
  unfold repositoryOf
  by_cases none : components = []
  · simp only [none, List.isEmpty_nil, if_true, Except.ok.injEq, List.not_mem_nil]
    exact ⟨fun same => ⟨fun _ mem => mem.elim, same.symm⟩, fun both => both.2.symm⟩
  · by_cases valid : ∀ component ∈ components, isComponent component = true
    · have all : components.all isComponent = true := List.all_eq_true.mpr valid
      simp only [List.isEmpty_iff, none, if_false, all, if_true, Except.ok.injEq]
      exact ⟨fun same => ⟨valid, same.symm⟩, fun both => both.2.symm⟩
    · have some : components.all isComponent = false := by
        rw [Bool.eq_false_iff]
        exact fun all => valid (List.all_eq_true.mp all)
      simp [none, some, valid]

/-- What is cut off at the front is a registry with a slash after it, and it is cut off whenever
there is one. -/
theorem splitRegistry_eq_iff {components rest : List (List Char)} {registry : Option (List Char)} :
    splitRegistry components = (registry, rest) ↔ components = registry.toList ++ rest ∧
      (∀ first ∈ registry, isRegistry first = true ∧ rest ≠ []) ∧
      (registry = none → ∀ first ∈ rest.dropLast.head?, isRegistry first = false) := by
  constructor
  · intro split
    unfold splitRegistry at split
    split at split
    · next first second others =>
      split at split
      · next found =>
        obtain ⟨rfl, rfl⟩ := Prod.mk.inj split
        simp [found]
      · next missing =>
        obtain ⟨rfl, rfl⟩ := Prod.mk.inj split
        simpa using missing
    · next short =>
      obtain ⟨rfl, rfl⟩ := Prod.mk.inj split
      match components with
      | [] | [_] => simp
      | first :: second :: others => exact absurd rfl (short first second others)
  · rintro ⟨rfl, found, missing⟩
    cases registry with
    | some first =>
      obtain ⟨found, present⟩ := found first rfl
      cases rest with
      | nil => exact absurd rfl present
      | cons second others => simp [splitRegistry, found]
    | none =>
      match rest with
      | [] | [_] => rfl
      | first :: second :: others =>
        have missing : isRegistry first = false := missing rfl first rfl
        simp [splitRegistry, missing]

theorem parseTrimmed_eq_ok_iff {cs : List Char} {image : Image} :
    parseTrimmed cs = .ok image ↔ cs ≠ [] ∧ ∃ path version registry rest name repository,
      splitVersion cs = .ok (path, version) ∧ [] ∉ pieces '/' path ∧
      splitRegistry (pieces '/' path) = (registry, rest) ∧ rest.getLast? = some name ∧
      isComponent name = true ∧ repositoryOf registry rest.dropLast = .ok repository ∧
      ⟨registry.map String.ofList, repository, String.ofList name, version⟩ = image := by
  have empty_iff (pieces : List (List Char)) : pieces.any List.isEmpty = true ↔ [] ∈ pieces := by
    simp
  unfold parseTrimmed
  simp only [bind, Except.bind, pure, Except.pure, throw, throwThe, MonadExceptOf.throw, empty_iff,
    List.isEmpty_iff]
  constructor
  · -- Each guard in turn ends the reading with an error or is passed.
    intro read
    split at read
    · cases read
    next given =>
    split at read
    · cases read
    next parts cut =>
    split at read
    · cases read
    next filled =>
    split at read
    · cases read
    next name last =>
    split at read
    · cases read
    next named =>
    split at read
    · cases read
    next repository found =>
    cases read
    refine ⟨given, _, _, _, _, name, repository, cut, filled, rfl, last, ?_, found, rfl⟩
    simpa using named
  · rintro ⟨given, path, version, registry, rest, name, repository, cut, filled, front, last, named,
      found, rfl⟩
    simp [given, cut, filled, front, last, named, found]

/-- What is read is the text of valid parts. -/
theorem parseTrimmed_sound {cs : List Char} {image : Image} (read : parseTrimmed cs = .ok image) :
    ∃ parts : ImageParts, parts.Valid ∧ parts.text = cs ∧ parts.image = image := by
  obtain ⟨given, path, version, registry, rest, name, repository, cut, filled, front, last, named,
    found, rfl⟩ := parseTrimmed_eq_ok_iff.mp read
  obtain ⟨rfl, atSign, versionValid, -⟩ := splitVersion_eq_ok_iff.mp cut
  obtain ⟨components, isRegistry, unambiguous⟩ := splitRegistry_eq_iff.mp front
  obtain ⟨valid, rfl⟩ := repositoryOf_eq_ok_iff.mp found
  let parts : ImageParts := ⟨registry, rest.dropLast, name, version⟩
  -- The components are the stretches between the slashes of the path.
  have whole : parts.components = pieces '/' path := by
    rw [components, ImageParts.components, List.dropLast_append_getLast? name last]
  have joined : parts.path = path := by
    rw [ImageParts.path, whole, intercalate_pieces]
  refine ⟨parts, ?_, by rw [ImageParts.text, joined], rfl⟩
  refine
    { registry := fun first here => ?_
      components := fun component mem => ?_
      unambiguous := unambiguous
      version := versionValid }
  · have here : registry = some first := here
    have piece : first ∈ pieces '/' path := by simp [components, here]
    rw [← joined, ImageParts.path_eq_cons here, List.mem_append, not_or] at atSign
    exact ⟨fun empty => filled (empty ▸ piece), not_mem_of_mem_pieces piece, atSign.1,
      (isRegistry first here).1⟩
  · rcases List.mem_append.mp mem with inside | last
    · exact valid component inside
    · rw [List.mem_singleton.mp last]
      exact named

end Image

namespace ImageParts.Valid

variable {parts : ImageParts}

theorem plainChar_of_mem (valid : parts.Valid) {component : List Char}
    (mem : component ∈ parts.repository ++ [parts.name]) {c : Char} (inside : c ∈ component) :
    PlainChar c :=
  Image.plainChar_of_mem_component (valid.components component mem) inside

/-- Behind the registry only slashes separate anything. -/
theorem plainChar_or_slash (valid : parts.Valid) {c : Char}
    (mem : c ∈ ['/'].intercalate (parts.repository ++ [parts.name])) : c = '/' ∨ PlainChar c := by
  rcases mem_intercalate mem with slash | ⟨component, inPath, inside⟩
  · exact Or.inl slash
  · exact Or.inr (valid.plainChar_of_mem inPath inside)

theorem pieces_path (valid : parts.Valid) : pieces '/' parts.path = parts.components := by
  apply pieces_intercalate
  · simp [ImageParts.components]
  · intro component mem slash
    rcases List.mem_append.mp mem with front | behind
    · exact (valid.registry component (by simpa using front)).2.1 slash
    · exact (valid.plainChar_of_mem behind slash).slash rfl

theorem filled (valid : parts.Valid) : [] ∉ parts.components := by
  intro mem
  rcases List.mem_append.mp mem with front | behind
  · exact (valid.registry [] (by simpa using front)).1 rfl
  · cases valid.components [] behind

theorem path_ne_nil (valid : parts.Valid) : parts.path ≠ [] := by
  intro empty
  have filled := valid.filled
  rw [← valid.pieces_path, empty] at filled
  exact filled List.mem_cons_self

theorem atSign_not_mem_path (valid : parts.Valid) : '@' ∉ parts.path := by
  intro mem
  rcases mem_intercalate mem with slash | ⟨component, inPath, inside⟩
  · cases slash
  · rcases List.mem_append.mp inPath with front | behind
    · exact (valid.registry component (by simpa using front)).2.2.1 inside
    · exact (valid.plainChar_of_mem behind inside).atSign rfl

/-- Colons stand in the registry only, and a slash follows the registry. -/
theorem tagFree_path (valid : parts.Valid) : Image.TagFree parts.path := by
  intro before after cut
  have colonless : ':' ∉ ['/'].intercalate (parts.repository ++ [parts.name]) := by
    intro mem
    rcases valid.plainChar_or_slash mem with slash | plain
    · cases slash
    · exact plain.colon rfl
  cases given : parts.registry with
  | none =>
    rw [path, ImageParts.components, given, Option.toList_none, List.nil_append] at cut
    exact absurd (cut ▸ List.mem_append_right _ List.mem_cons_self) colonless
  | some registry =>
    rw [path_eq_cons given] at cut
    -- The colon stands behind the registry, which is impossible, or in it.
    rcases List.append_eq_append_iff.mp cut with ⟨middle, rfl, rest⟩ | ⟨middle, rfl, rest⟩
    · cases middle with
      | nil => cases rest
      | cons slash middle =>
        obtain ⟨-, rest⟩ := List.cons.inj rest
        exact absurd (rest ▸ List.mem_append_right _ List.mem_cons_self) colonless
    · cases middle with
      | nil => cases rest
      | cons colon middle =>
        obtain ⟨-, rfl⟩ := List.cons.inj rest
        simp

end ImageParts.Valid

/-- The version of valid parts is found behind their path. -/
theorem ImageParts.Valid.splitVersion_text {parts : ImageParts} (valid : parts.Valid) :
    Image.splitVersion parts.text = .ok (parts.path, parts.version) :=
  Image.splitVersion_eq_ok_iff.mpr
    ⟨rfl, valid.atSign_not_mem_path, valid.version, fun _ => valid.tagFree_path⟩

/-- The registry of valid parts is found in front of their components. -/
theorem ImageParts.Valid.splitRegistry_path {parts : ImageParts} (valid : parts.Valid) :
    Image.splitRegistry (pieces '/' parts.path) =
      (parts.registry, parts.repository ++ [parts.name]) := by
  refine Image.splitRegistry_eq_iff.mpr ⟨valid.pieces_path, fun first here => ?_, ?_⟩
  · exact ⟨(valid.registry first here).2.2.2, by simp⟩
  · simpa using valid.unambiguous

/-- The text of valid parts is read as their image. -/
theorem Image.parseTrimmed_complete {parts : ImageParts} (valid : parts.Valid) :
    parseTrimmed parts.text = .ok parts.image := by
  have repository : repositoryOf parts.registry parts.repository = .ok parts.image.repository := by
    refine repositoryOf_eq_ok_iff.mpr ⟨fun component mem => ?_, rfl⟩
    exact valid.components component (List.mem_append_left _ mem)
  rw [parseTrimmed_eq_ok_iff]
  refine ⟨?_, parts.path, parts.version, parts.registry, parts.repository ++ [parts.name],
    parts.name, parts.image.repository, valid.splitVersion_text, ?_, valid.splitRegistry_path,
    ?_, ?_, ?_, ?_⟩
  · simp [ImageParts.text, valid.path_ne_nil]
  · rw [valid.pieces_path]
    exact valid.filled
  · simp
  · exact valid.components _ (by simp)
  · simpa using repository
  · simp [ImageParts.image]

end ContainerFixture
