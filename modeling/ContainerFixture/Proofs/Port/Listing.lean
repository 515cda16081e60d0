import ContainerFixture.Proofs.Port.Reading
import Mathlib.Data.List.Basic

/-!
# Listings of ports read back

Main result: `parsePortList_listable`. The bindings that a listing can give are those whose hosts do
not read as the end of an entry or of a side and do not start with a blank. Written with commas
between them, such bindings are read back as they are and in their order.

Four signs separate the parts of a listing and may not be taken for parts of it. No number and no
protocol contains one (`range_of_mem_portSide`). A host may contain slashes and colons: the slash is
looked for on the other side of the arrow, and the colon that counts is the last one.
-/

namespace ContainerFixture

open Text

/-- A host that a listing can hold. It may be empty and may contain colons. -/
structure HostAddress.Listable (address : HostAddress) : Prop where
  commaless : ',' ∉ address.host.toList
  arrowless : ¬ ['-', '>'] <:+: address.host.toList
  front : ∀ c ∈ address.host.toList.head?, isBlank c = false

/-- A binding that a listing can hold. -/
def PortBinding.Listable (binding : PortBinding) : Prop :=
  ∀ address ∈ binding.host, address.Listable

/-! ### Numbers and protocols -/

/-- The digits of a port. -/
def portDigits (port : UInt16) : List Char := port.toNat.repr.toList

theorem range_of_mem_portDigits {port : UInt16} {c : Char} (mem : c ∈ portDigits port) :
    0x30 ≤ c.toNat ∧ c.toNat ≤ 0x39 := by
  have digit : ('0' ≤ c && c ≤ '9') = true := isDigit_of_mem_repr mem
  simp only [Bool.and_eq_true, decide_eq_true_eq] at digit
  exact digit

theorem word16?_portDigits (port : UInt16) :
    word16? (trimBlank (portDigits port)) = some port := by
  have filled : ∀ c ∈ portDigits port, isBlank c = false := fun c mem =>
    have range := range_of_mem_portDigits mem
    isBlank_of_visible (by omega) (by omega)
  rw [(trimmed_of_filled filled).trimBlank_eq]
  exact word16?_repr port

theorem not_mem_portDigits {port : UInt16} {c : Char} (foreign : c.toNat < 0x30 ∨ 0x39 < c.toNat) :
    c ∉ portDigits port := by
  intro mem
  have range := range_of_mem_portDigits mem
  omega

theorem Protocol.range_of_mem_text (protocol : Protocol) :
    ∀ c ∈ protocol.text.toList, 0x61 ≤ c.toNat ∧ c.toNat ≤ 0x7A := by
  cases protocol <;> simp [Protocol.text]

/-- What is written for a port of a container. -/
def portSide (port : UInt16) (protocol : Protocol) : List Char :=
  portDigits port ++ '/' :: protocol.text.toList

variable {port : UInt16} {protocol : Protocol}

theorem range_of_mem_portSide {c : Char} (mem : c ∈ portSide port protocol) :
    0x2F ≤ c.toNat ∧ c.toNat ≤ 0x7A := by
  rcases List.mem_append.mp mem with digit | behind
  · have range := range_of_mem_portDigits digit
    omega
  · rcases List.mem_cons.mp behind with rfl | letter
    · decide
    · have range := protocol.range_of_mem_text c letter
      omega

theorem filled_portSide : ∀ c ∈ portSide port protocol, isBlank c = false := fun _ mem =>
  have range := range_of_mem_portSide mem
  isBlank_of_visible (by omega) (by omega)

theorem not_mem_portSide {c : Char} (foreign : c.toNat < 0x2F) : c ∉ portSide port protocol := by
  intro mem
  have range := range_of_mem_portSide mem
  omega

theorem arrowless_portSide : ¬ ['-', '>'] <:+: portSide port protocol := fun inside =>
  not_mem_portSide (by decide : '-'.toNat < 0x2F) (inside.subset List.mem_cons_self)

theorem readContainerSide_portSide {token : List Char} :
    PortBinding.readContainerSide token (trimBlank (portSide port protocol)) =
      .ok (port, protocol) := by
  rw [(trimmed_of_filled filled_portSide).trimBlank_eq, PortBinding.readContainerSide_eq_ok_iff]
  refine ⟨portDigits port, protocol.text.toList, rfl, not_mem_portDigits (by decide),
    word16?_portDigits port, ?_⟩
  rw [String.ofList_toList, protocol.parse_text]

/-! ### Hosts -/

namespace HostAddress

variable {address : HostAddress}

theorem toList_text (address : HostAddress) :
    address.text.toList = address.host.toList ++ ':' :: portDigits address.port := by
  rw [HostAddress.text, String.toList_append, String.toList_append, List.append_assoc]
  rfl

theorem Listable.arrowless_text (listable : address.Listable) :
    ¬ ['-', '>'] <:+: address.text.toList := by
  have digits : ¬ ['-', '>'] <:+: portDigits address.port := fun inside =>
    not_mem_portDigits (by decide : '-'.toNat < 0x30 ∨ 0x39 < '-'.toNat)
      (inside.subset List.mem_cons_self)
  rw [toList_text]
  exact arrow_free_append_cons (by decide) (by decide) listable.arrowless digits

theorem Listable.commaless_text (listable : address.Listable) : ',' ∉ address.text.toList := by
  rw [toList_text, List.mem_append, List.mem_cons, not_or, not_or]
  exact ⟨listable.commaless, by decide, not_mem_portDigits (by decide)⟩

theorem Listable.trimmed_text (listable : address.Listable) : Trimmed address.text.toList := by
  rw [toList_text]
  constructor
  · cases host : address.host.toList with
    | nil => simp; decide
    | cons first rest =>
      have front := listable.front
      rw [host] at front
      simpa using front
  · intro c last
    rw [List.getLast?_append_of_ne_nil _ (List.cons_ne_nil _ _)] at last
    rcases List.mem_cons.mp (List.mem_of_getLast? last) with rfl | digit
    · decide
    · have range := range_of_mem_portDigits digit
      exact isBlank_of_visible (by omega) (by omega)

theorem Listable.readHostSide_text {token : List Char} (listable : address.Listable) :
    PortBinding.readHostSide token (trimBlank address.text.toList) = .ok address := by
  rw [listable.trimmed_text.trimBlank_eq, PortBinding.readHostSide_eq_ok_iff]
  exact ⟨portDigits address.port, address.toList_text, not_mem_portDigits (by decide),
    word16?_portDigits address.port⟩

end HostAddress

/-! ### Entries -/

namespace PortBinding

variable {binding : PortBinding}

theorem toList_text_unbound :
    (PortBinding.mk port protocol none).text.toList = portSide port protocol := by
  simp only [text, Option.map_none, Option.getD_none, String.empty_append, String.toList_append,
    List.append_assoc]
  rfl

theorem toList_text_bound {address : HostAddress} :
    (PortBinding.mk port protocol (some address)).text.toList =
      address.text.toList ++ '-' :: '>' :: portSide port protocol := by
  simp only [text, Option.map_some, Option.getD_some, String.toList_append, List.append_assoc]
  rfl

/-- What is written for a binding that a listing can hold is read as the binding. -/
theorem Listable.parseTrimmed_text (listable : binding.Listable) :
    parseTrimmed binding.text.toList = .ok binding := by
  obtain ⟨port, protocol, host⟩ := binding
  refine parseTrimmed_eq_ok_iff.mpr ⟨portSide port protocol, readContainerSide_portSide, ?_⟩
  cases host with
  | none =>
    rw [toList_text_unbound]
    exact arrowPieces_of_free arrowless_portSide
  | some address =>
    have listable : address.Listable := listable address rfl
    refine ⟨address.text.toList, ?_, listable.readHostSide_text⟩
    rw [toList_text_bound, arrowPieces_append_arrow listable.arrowless_text,
      arrowPieces_of_free arrowless_portSide]

/-- What is read from an entry can be held by a listing. -/
theorem listable_of_parseTrimmed {token : List Char} (commaless : ',' ∉ token)
    (read : parseTrimmed token = .ok binding) : binding.Listable := by
  intro address bound
  obtain ⟨container, -, sides⟩ := parseTrimmed_eq_ok_iff.mp read
  rw [bound] at sides
  obtain ⟨host, pieces, readHost⟩ := sides
  obtain ⟨number, whole, -⟩ := readHostSide_eq_ok_iff.mp readHost
  have piece : host ∈ arrowPieces token := by simp [pieces]
  -- The host stands at the front of its trimmed side, and that inside the entry.
  have front : address.host.toList <+: trimBlank host := ⟨_, whole.symm⟩
  have inside : address.host.toList <:+: host := front.isInfix.trans (trimBlank_isInfix host)
  have within : host ⊆ token := intercalate_arrowPieces token ▸ subset_intercalate piece
  refine
    { commaless := fun mem => commaless (within (inside.subset mem))
      arrowless := fun arrow => free_of_mem_arrowPieces piece (arrow.trans inside)
      front := fun c first => ?_ }
  apply (trimmed_trimBlank host).1
  rw [whole, Option.mem_def, List.head?_append, Option.mem_def.mp first]
  rfl

theorem Listable.commaless_text (listable : binding.Listable) : ',' ∉ binding.text.toList := by
  obtain ⟨port, protocol, host⟩ := binding
  cases host with
  | none =>
    rw [toList_text_unbound]
    exact not_mem_portSide (by decide)
  | some address =>
    rw [toList_text_bound]
    simp only [List.mem_append, List.mem_cons, not_or]
    exact ⟨(listable address rfl).commaless_text, by decide, by decide,
      not_mem_portSide (by decide)⟩

theorem Listable.trimmed_text (listable : binding.Listable) : Trimmed binding.text.toList := by
  obtain ⟨port, protocol, host⟩ := binding
  cases host with
  | none =>
    rw [toList_text_unbound]
    exact trimmed_of_filled filled_portSide
  | some address =>
    have trimmed : Trimmed address.text.toList := (listable address rfl).trimmed_text
    rw [toList_text_bound]
    constructor
    · rw [List.head?_append_of_ne_nil _ (by simp [HostAddress.toList_text])]
      exact trimmed.1
    · intro c last
      rw [← List.singleton_append, ← List.singleton_append, List.append_cons, ← List.append_assoc,
        List.getLast?_append_of_ne_nil _ (by simp [portSide])] at last
      exact filled_portSide c (List.mem_of_getLast? last)

theorem Listable.text_ne_nil (listable : binding.Listable) : binding.text.toList ≠ [] := by
  intro empty
  have read := listable.parseTrimmed_text
  rw [empty] at read
  cases read

end PortBinding

/-! ### Listings -/

theorem map_trimBlank_pieces {gap : List Char} (blank : ∀ c ∈ gap, isBlank c = true)
    {tokens : List (List Char)} (present : tokens ≠ [])
    (valid : ∀ token ∈ tokens, ',' ∉ token ∧ Trimmed token) (lead : List Char)
    (blankLead : ∀ c ∈ lead, isBlank c = true) :
    (pieces ',' (lead ++ (',' :: gap).intercalate tokens)).map trimBlank = tokens := by
  induction tokens generalizing lead with
  | nil => exact absurd rfl present
  | cons token others ih =>
    obtain ⟨commaless, trimmed⟩ := valid token List.mem_cons_self
    have front : ',' ∉ lead ++ token := by
      rw [List.mem_append, not_or]
      exact ⟨fun mem => absurd (blankLead _ mem) (by decide), commaless⟩
    have entry : trimBlank (lead ++ token) = token := by
      rw [trimBlank_append_left blankLead, trimmed.trimBlank_eq]
    cases others with
    | nil => simp [pieces_of_not_mem front, entry]
    | cons next more =>
      have rest :=
        ih (by simp) (fun later mem => valid later (List.mem_cons_of_mem _ mem)) gap blank
      rw [List.intercalate_cons_cons, List.append_assoc, ← List.append_assoc lead,
        List.cons_append, pieces_append_cons front, List.map_cons, entry, rest]

/-- Entries are found again when they were written with commas between them, and blanks behind the
commas. -/
theorem portTokens_intercalate {gap : List Char} (blank : ∀ c ∈ gap, isBlank c = true)
    {tokens : List (List Char)}
    (valid : ∀ token ∈ tokens, token ≠ [] ∧ ',' ∉ token ∧ Trimmed token) :
    portTokens ((',' :: gap).intercalate tokens) = tokens := by
  by_cases empty : tokens = []
  · subst empty
    rfl
  · have found := map_trimBlank_pieces blank empty (fun token mem => (valid token mem).2) []
      (by simp)
    rw [portTokens, ← List.nil_append (List.intercalate _ _), found, List.filter_eq_self]
    intro token mem
    simpa using (valid token mem).1

theorem not_mem_of_mem_portTokens {listing token : List Char} (mem : token ∈ portTokens listing) :
    ',' ∉ token := by
  obtain ⟨piece, inListing, rfl⟩ := List.mem_map.mp (List.mem_filter.mp mem).1
  exact fun comma => not_mem_of_mem_pieces inListing ((trimBlank_isInfix piece).subset comma)

theorem parsePortList_intercalate (gap : List Char) (blank : ∀ c ∈ gap, isBlank c = true)
    {bindings : List PortBinding} (listable : ∀ binding ∈ bindings, binding.Listable) :
    parsePortList ((String.ofList (',' :: gap)).intercalate (bindings.map PortBinding.text)) =
      .ok bindings := by
  have tokens : portTokens ((',' :: gap).intercalate (bindings.map (·.text.toList))) =
      bindings.map (·.text.toList) := by
    apply portTokens_intercalate blank
    intro token mem
    obtain ⟨binding, held, rfl⟩ := List.mem_map.mp mem
    have listable := listable binding held
    exact ⟨listable.text_ne_nil, listable.commaless_text, listable.trimmed_text⟩
  rw [parsePortList_eq_ok_iff, String.toList_intercalate, String.toList_ofList, List.map_map,
    Function.comp_def, tokens, List.forall₂_map_left_iff, List.forall₂_same]
  exact fun binding held => (listable binding held).parseTrimmed_text

theorem listable_of_parsePortList {listing : String} {bindings : List PortBinding}
    (read : parsePortList listing = .ok bindings) : ∀ binding ∈ bindings, binding.Listable := by
  have entries := parsePortList_eq_ok_iff.mp read
  intro binding held
  obtain ⟨token, mem, read⟩ := exists_of_forall₂ entries held
  exact PortBinding.listable_of_parseTrimmed (not_mem_of_mem_portTokens mem) read

/-- Bindings that a listing can hold are read back from the listing of their texts, with or without
a space behind its commas. What is read from any listing are such bindings, so that reading, writing
and reading again gives the same. -/
theorem parsePortList_listable :
    (∀ bindings : List PortBinding, (∀ binding ∈ bindings, binding.Listable) →
      ∀ separator ∈ [", ", ","],
        parsePortList (separator.intercalate (bindings.map PortBinding.text)) = .ok bindings) ∧
    ∀ (listing : String) (bindings : List PortBinding), parsePortList listing = .ok bindings →
      (∀ binding ∈ bindings, binding.Listable) ∧
      ∀ separator ∈ [", ", ","],
        parsePortList (separator.intercalate (bindings.map PortBinding.text)) = .ok bindings := by
  have reads (bindings : List PortBinding) (listable : ∀ binding ∈ bindings, binding.Listable) :
      ∀ separator ∈ [", ", ","],
        parsePortList (separator.intercalate (bindings.map PortBinding.text)) = .ok bindings := by
    intro separator known
    rcases List.mem_cons.mp known with rfl | known
    · exact parsePortList_intercalate [' '] (List.forall_mem_singleton.mpr (by decide)) listable
    · rw [List.mem_singleton.mp known]
      exact parsePortList_intercalate [] (List.forall_mem_nil _) listable
  refine ⟨reads, fun listing bindings read => ?_⟩
  have listable := listable_of_parsePortList read
  exact ⟨listable, reads bindings listable⟩

end ContainerFixture
