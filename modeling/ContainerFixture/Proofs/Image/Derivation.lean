import ContainerFixture.Proofs.Image.RoundTrip

/-!
# What is an image reference

Main result: `Image.parse_derives`. A text is read as an image exactly when, trimmed, it is derived
by the rules

    reference = [registry "/"] component *("/" component) version
    version   = "" / ":" tag / "@" algorithm ":" hex

and its image is that of the derivation. Only one choice is left open by the rules: a component in
front that has a dot in it, or is `localhost`, could also be a registry. It is read as one, and
under that preference a text has at most one derivation.

The rules are stated by the characters of each part, and `derives_iff` ties them to
`ImageParts.Valid`, for which the reader was shown sound and complete.
-/

namespace ContainerFixture

open Text

/-! ### The rules -/

/-- The letters and digits of names. -/
def IsLowerOrDigit (c : Char) : Prop := ('a' ≤ c ∧ c ≤ 'z') ∨ ('0' ≤ c ∧ c ≤ '9')

/-- A word of one or more of `[a-z0-9._-]`. -/
def IsComponentText (cs : List Char) : Prop :=
  cs ≠ [] ∧ ∀ c ∈ cs, IsLowerOrDigit c ∨ c = '.' ∨ c = '_' ∨ c = '-'

/-- A word of one or more of `[a-z0-9+._-]`. -/
def IsAlgorithmText (cs : List Char) : Prop :=
  cs ≠ [] ∧ ∀ c ∈ cs, IsLowerOrDigit c ∨ c = '+' ∨ c = '.' ∨ c = '_' ∨ c = '-'

/-- One or more hexadecimal digits. -/
def IsHexText (cs : List Char) : Prop :=
  cs ≠ [] ∧ ∀ c ∈ cs, ('0' ≤ c ∧ c ≤ '9') ∨ ('a' ≤ c ∧ c ≤ 'f') ∨ ('A' ≤ c ∧ c ≤ 'F')

/-- Anything without slashes and at signs that has a dot or a colon in it, or `localhost`. -/
def IsRegistryText (cs : List Char) : Prop :=
  cs ≠ [] ∧ '/' ∉ cs ∧ '@' ∉ cs ∧ ('.' ∈ cs ∨ ':' ∈ cs ∨ cs = "localhost".toList)

/-- The versions and what is written for them. -/
inductive DerivesVersion : Option Version → List Char → Prop where
  | absent : DerivesVersion none []
  | tag {name : String} (valid : Image.IsTagText name) :
    DerivesVersion (some (.tag name)) (':' :: name.toList)
  | digest {algorithm hex : String} (valid : IsAlgorithmText algorithm.toList)
      (validHex : IsHexText hex.toList) :
    DerivesVersion (some (.digest algorithm hex)) ('@' :: (algorithm.toList ++ ':' :: hex.toList))

/-- The references and what is written for them. -/
inductive Derives : ImageParts → List Char → Prop where
  | unhosted {repository : List (List Char)} {name suffix : List Char} {version : Option Version}
      (components : ∀ component ∈ repository ++ [name], IsComponentText component)
      (written : DerivesVersion version suffix) :
    Derives ⟨none, repository, name, version⟩ (['/'].intercalate (repository ++ [name]) ++ suffix)
  | hosted {registry : List Char} {repository : List (List Char)} {name suffix : List Char}
      {version : Option Version} (host : IsRegistryText registry)
      (components : ∀ component ∈ repository ++ [name], IsComponentText component)
      (written : DerivesVersion version suffix) :
    Derives ⟨some registry, repository, name, version⟩
      (registry ++ '/' :: (['/'].intercalate (repository ++ [name]) ++ suffix))

/-- Where the first of several components could be a registry, it is. -/
def ImageParts.PrefersRegistry (parts : ImageParts) : Prop :=
  parts.registry = none → ∀ first ∈ parts.repository.head?, ¬ IsRegistryText first

/-! ### The reader's alphabet -/

namespace Image

theorem isLowerOrDigit_iff {c : Char} : (c.isLower || c.isDigit) = true ↔ IsLowerOrDigit c := by
  have lower : c.isLower = ('a' ≤ c && c ≤ 'z') := rfl
  have digit : c.isDigit = ('0' ≤ c && c ≤ '9') := rfl
  simp [IsLowerOrDigit, lower, digit]

theorem isComponent_iff {cs : List Char} : isComponent cs = true ↔ IsComponentText cs := by
  simp only [isComponent, isComponentChar, Bool.and_eq_true, List.all_eq_true,
    Bool.or_eq_true (_ || _), isLowerOrDigit_iff, IsComponentText]
  simp

theorem isAlgorithm_iff {cs : List Char} : isAlgorithm cs = true ↔ IsAlgorithmText cs := by
  simp only [isAlgorithm, isAlgorithmChar, Bool.and_eq_true, List.all_eq_true,
    Bool.or_eq_true (_ || _), isLowerOrDigit_iff, IsAlgorithmText]
  simp

theorem isHex_iff {cs : List Char} : isHex cs = true ↔ IsHexText cs := by
  have digit (c : Char) : c.isDigit = ('0' ≤ c && c ≤ '9') := rfl
  simp [isHex, isHexChar, IsHexText, digit, or_assoc]

theorem isRegistryText_iff {cs : List Char} : IsRegistryText cs ↔
    cs ≠ [] ∧ '/' ∉ cs ∧ '@' ∉ cs ∧ isRegistry cs = true := by
  simp only [IsRegistryText, isRegistry, Bool.or_eq_true, decide_eq_true_eq, or_assoc]

/-- A component has no slash and no at sign, so it is a registry text when it looks like one. -/
theorem isRegistryText_iff_of_component {cs : List Char} (component : isComponent cs = true) :
    IsRegistryText cs ↔ isRegistry cs = true := by
  have plain : ∀ c ∈ cs, PlainChar c := fun c => plainChar_of_mem_component component
  have present : cs ≠ [] := (isComponent_iff.mp component).1
  have slashless : '/' ∉ cs := fun mem => (plain _ mem).slash rfl
  have unsigned : '@' ∉ cs := fun mem => (plain _ mem).atSign rfl
  rw [isRegistryText_iff]
  exact ⟨fun registry => registry.2.2.2, fun registry => ⟨present, slashless, unsigned, registry⟩⟩

theorem derivesVersion_iff {version : Option Version} {cs : List Char} :
    DerivesVersion version cs ↔ (∀ v ∈ version, v.Valid) ∧ suffix version = cs := by
  constructor
  · intro derived
    cases derived with
    | absent => simp
    | tag valid => simpa [Version.Valid, isTag_iff] using valid
    | digest valid validHex =>
      simpa [Version.Valid, isAlgorithm_iff, isHex_iff] using And.intro valid validHex
  · rintro ⟨valid, rfl⟩
    cases version with
    | none => exact DerivesVersion.absent
    | some version =>
      cases version with
      | tag name =>
        rw [suffix_tag]
        exact DerivesVersion.tag (isTag_iff.mp (valid _ rfl))
      | digest algorithm hex =>
        rw [suffix_digest]
        obtain ⟨validAlgorithm, validHex⟩ := valid _ rfl
        exact DerivesVersion.digest (isAlgorithm_iff.mp validAlgorithm) (isHex_iff.mp validHex)

end Image

/-! ### Derivations are valid parts -/

namespace ImageParts

variable {parts : ImageParts}

theorem prefersRegistry_iff
    (components : ∀ component ∈ parts.repository ++ [parts.name], IsComponentText component) :
    parts.PrefersRegistry ↔
      (parts.registry = none →
        ∀ first ∈ parts.repository.head?, Image.isRegistry first = false) := by
  refine imp_congr_right fun _ => forall₂_congr fun first front => ?_
  have component := components first (List.mem_append_left _ (List.mem_of_head? front))
  rw [Image.isRegistryText_iff_of_component (Image.isComponent_iff.mpr component),
    Bool.not_eq_true]

/-- A derivation that prefers registries is that of the text of valid parts. -/
theorem derives_iff {cs : List Char} :
    Derives parts cs ∧ parts.PrefersRegistry ↔ parts.Valid ∧ parts.text = cs := by
  constructor
  · rintro ⟨derived, prefers⟩
    cases derived with
    | unhosted components written =>
      obtain ⟨validVersion, suffix⟩ := Image.derivesVersion_iff.mp written
      refine ⟨?_, by simp [text, path, ImageParts.components, suffix]⟩
      exact
        { registry := by simp
          components := fun component mem => Image.isComponent_iff.mpr (components component mem)
          unambiguous := (prefersRegistry_iff components).mp prefers
          version := validVersion }
    | hosted host components written =>
      obtain ⟨validVersion, suffix⟩ := Image.derivesVersion_iff.mp written
      refine ⟨?_, by simp [text, path_eq_cons, suffix]⟩
      exact
        { registry := fun registry given => by
            cases given
            exact Image.isRegistryText_iff.mp host
          components := fun component mem => Image.isComponent_iff.mpr (components component mem)
          unambiguous := by simp
          version := validVersion }
  · rintro ⟨valid, rfl⟩
    have components : ∀ component ∈ parts.repository ++ [parts.name], IsComponentText component :=
      fun component mem => Image.isComponent_iff.mp (valid.components component mem)
    have written : DerivesVersion parts.version (Image.suffix parts.version) :=
      Image.derivesVersion_iff.mpr ⟨valid.version, rfl⟩
    refine ⟨?_, (prefersRegistry_iff components).mpr valid.unambiguous⟩
    obtain ⟨registry, repository, name, version⟩ := parts
    cases registry with
    | none => exact Derives.unhosted components written
    | some registry =>
      rw [text, path_eq_cons rfl, List.append_assoc, List.cons_append]
      exact Derives.hosted (Image.isRegistryText_iff.mpr (valid.registry registry rfl)) components
        written

/-- Valid parts are found again in their text. -/
theorem Valid.unique {parts' : ImageParts} (valid : parts.Valid) (valid' : parts'.Valid)
    (same : parts.text = parts'.text) : parts = parts' := by
  have versions : (parts.path, parts.version) = (parts'.path, parts'.version) :=
    Except.ok.inj (valid.splitVersion_text.symm.trans (same ▸ valid'.splitVersion_text))
  obtain ⟨paths, versions⟩ := Prod.mk.inj versions
  have registries : (parts.registry, parts.repository ++ [parts.name]) =
      (parts'.registry, parts'.repository ++ [parts'.name]) :=
    valid.splitRegistry_path.symm.trans (paths ▸ valid'.splitRegistry_path)
  obtain ⟨registries, components⟩ := Prod.mk.inj registries
  obtain ⟨repositories, names⟩ := List.append_inj' components rfl
  obtain ⟨registry, repository, name, version⟩ := parts
  simp_all

end ImageParts

/-- Of two readings of a first component, that as a registry derives the same text. -/
theorem Derives.preferred {parts : ImageParts} {cs : List Char} (derived : Derives parts cs) :
    ∃ preferred : ImageParts, Derives preferred cs ∧ preferred.PrefersRegistry := by
  by_cases prefers : parts.PrefersRegistry
  · exact ⟨parts, derived, prefers⟩
  · cases derived with
    | hosted => simp [ImageParts.PrefersRegistry] at prefers
    | @unhosted repository name suffix version components written =>
      cases repository with
      | nil => simp [ImageParts.PrefersRegistry] at prefers
      | cons first others =>
        have host : IsRegistryText first := by simpa [ImageParts.PrefersRegistry] using prefers
        refine ⟨⟨some first, others, name, version⟩, ?_, by simp [ImageParts.PrefersRegistry]⟩
        have rest : ∀ component ∈ others ++ [name], IsComponentText component :=
          fun component mem => components component (List.mem_cons_of_mem _ mem)
        have same : ['/'].intercalate (first :: others ++ [name]) ++ suffix =
            first ++ '/' :: (['/'].intercalate (others ++ [name]) ++ suffix) := by
          cases split : others ++ [name] with
          | nil => simp at split
          | cons next more => simp [List.intercalate_cons_cons, split]
        rw [same]
        exact Derives.hosted host rest written

/-! ### Main result -/

/-- A text is read when, trimmed, it is derived by the rules. It is read as the image of the one
derivation of it that prefers registries. -/
theorem Image.parse_derives (s : String) :
    ((∃ x, parse s = .ok x) ↔ ∃ parts, Derives parts (trim s).toList) ∧
    (∀ x, parse s = .ok x ↔
      ∃ parts, Derives parts (trim s).toList ∧ parts.PrefersRegistry ∧ parts.image = x) ∧
    ∀ parts parts', Derives parts (trim s).toList → parts.PrefersRegistry →
      Derives parts' (trim s).toList → parts'.PrefersRegistry → parts = parts' := by
  have trimmed : (trim s).toList = trimBlank s.toList := String.toList_ofList
  have reads (x : Image) : parse s = .ok x ↔
      ∃ parts, Derives parts (trim s).toList ∧ parts.PrefersRegistry ∧ parts.image = x := by
    constructor
    · intro read
      obtain ⟨parts, valid, text, image⟩ := parseTrimmed_sound read
      obtain ⟨derived, prefers⟩ := ImageParts.derives_iff.mpr ⟨valid, text.trans trimmed.symm⟩
      exact ⟨parts, derived, prefers, image⟩
    · rintro ⟨parts, derived, prefers, rfl⟩
      obtain ⟨valid, text⟩ := ImageParts.derives_iff.mp ⟨derived, prefers⟩
      rw [parse, ← trimmed, ← text]
      exact parseTrimmed_complete valid
  refine ⟨⟨?_, ?_⟩, reads, ?_⟩
  · rintro ⟨x, read⟩
    obtain ⟨parts, derived, -, -⟩ := (reads x).mp read
    exact ⟨parts, derived⟩
  · rintro ⟨parts, derived⟩
    obtain ⟨preferred, derived, prefers⟩ := derived.preferred
    exact ⟨preferred.image, (reads preferred.image).mpr ⟨preferred, derived, prefers, rfl⟩⟩
  · intro parts parts' derived prefers derived' prefers'
    obtain ⟨valid, text⟩ := ImageParts.derives_iff.mp ⟨derived, prefers⟩
    obtain ⟨valid', text'⟩ := ImageParts.derives_iff.mp ⟨derived', prefers'⟩
    exact valid.unique valid' (text.trans text'.symm)

end ContainerFixture
