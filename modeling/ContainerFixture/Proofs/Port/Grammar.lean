import ContainerFixture.Proofs.Port.Reading

/-!
# What is a port binding

A port binding is written by the rules

    binding   = _ container _  /  _ host _ "->" _ container _
    container = _ number _ "/" protocol
    host      = address ":" _ number _
    number    = ["+"] 1*digit
    protocol  = "tcp" / "TCP" / "udp" / "UDP" / "sctp" / "SCTP"

where `_` is white space, and a number is at most 65535. Only the address is free: it may hold
anything but an arrow, so the colon that counts is the last one.

Main results: `PortBinding.parse_eq_ok_iff`, which says that these are the texts that are read as
bindings, and as which, and `parsePortList_eq_mapM`, which says that a listing is read entry by
entry. The rules are stated without the functions that cut and trim, and each function that reads a
part is shown to accept what one rule derives.
-/

namespace ContainerFixture

open Text

/-! ### The rules -/

/-- One or more decimal digits, with their value. -/
def IsDecimal (value : Nat) (digits : List Char) : Prop :=
  digits ≠ [] ∧ (∀ c ∈ digits, '0' ≤ c ∧ c ≤ '9') ∧ Nat.ofDigitChars 10 digits 0 = value

-- That a number is at most 65535 is said by its type.
inductive DerivesNumber (port : UInt16) : List Char → Prop where
  | plain {digits : List Char} (decimal : IsDecimal port.toNat digits) : DerivesNumber port digits
  | signed {digits : List Char} (decimal : IsDecimal port.toNat digits) :
    DerivesNumber port ('+' :: digits)

def Protocol.spellings : Protocol → List String
  | tcp => ["tcp", "TCP"]
  | udp => ["udp", "UDP"]
  | sctp => ["sctp", "SCTP"]

inductive DerivesContainer (port : UInt16) (protocol : Protocol) : List Char → Prop where
  | mk {digits number : List Char} {name : String}
      (derives : DerivesNumber port digits) (padded : Padded digits number)
      (slashless : '/' ∉ number) (spelt : name ∈ protocol.spellings) :
    DerivesContainer port protocol (number ++ '/' :: name.toList)

inductive DerivesHost : HostAddress → List Char → Prop where
  | mk {host : String} {port : UInt16} {digits number : List Char}
      (derives : DerivesNumber port digits) (padded : Padded digits number)
      (colonless : ':' ∉ number) :
    DerivesHost ⟨host, port⟩ (host.toList ++ ':' :: number)

/-- No arrow stands in a text. -/
def Arrowless (cs : List Char) : Prop := ¬ ['-', '>'] <:+: cs

inductive DerivesBinding : PortBinding → List Char → Prop where
  | unpublished {port : UInt16} {protocol : Protocol} {container token : List Char}
      (derives : DerivesContainer port protocol container) (arrowless : Arrowless container)
      (padded : Padded container token) :
    DerivesBinding ⟨port, protocol, none⟩ token
  | published {port : UInt16} {protocol : Protocol} {address : HostAddress}
      {host hostSide container containerSide token : List Char}
      (derivesHost : DerivesHost address host) (paddedHost : Padded host hostSide)
      (derives : DerivesContainer port protocol container)
      (paddedContainer : Padded container containerSide)
      (arrowless : Arrowless hostSide) (arrowless' : Arrowless containerSide)
      (padded : Padded (hostSide ++ '-' :: '>' :: containerSide) token) :
    DerivesBinding ⟨port, protocol, some address⟩ token

/-! ### Numbers and protocols -/

theorem isDecimal_iff {value : Nat} {digits : List Char} : IsDecimal value digits ↔
    digits ≠ [] ∧ (∀ c ∈ digits, c.isDigit = true) ∧ digitsValue 0 digits = value := by
  have digit (c : Char) : c.isDigit = ('0' ≤ c && c ≤ '9') := rfl
  simp [IsDecimal, digitsValue_eq_ofDigitChars, digit]

theorem derivesNumber_iff {port : UInt16} {cs : List Char} :
    DerivesNumber port cs ↔ IsDecimal port.toNat (unsigned cs) := by
  constructor
  · intro derived
    cases derived with
    | plain decimal =>
      rw [unsigned_of_isDigit (isDecimal_iff.mp decimal).2.1]
      exact decimal
    | signed decimal => exact decimal
  · intro decimal
    -- A text that starts with a plus sign has its digits behind it.
    by_cases sign : ∃ digits, cs = '+' :: digits
    · obtain ⟨digits, rfl⟩ := sign
      exact .signed decimal
    · have whole : unsigned cs = cs := by
        unfold unsigned
        split
        · next digits => exact absurd ⟨digits, rfl⟩ sign
        · rfl
      rw [whole] at decimal
      exact .plain decimal

theorem word16?_eq_some_iff {port : UInt16} {cs : List Char} :
    word16? cs = some port ↔ DerivesNumber port cs := by
  rw [derivesNumber_iff, isDecimal_iff, word16?, Option.map_eq_some_iff]
  constructor
  · rintro ⟨value, read, rfl⟩
    obtain ⟨present, digits, same, small⟩ := numeral?_eq_some_iff.mp read
    refine ⟨present, digits, same.trans ?_⟩
    have small : value < UInt16.size := Nat.lt_of_le_pred (by decide) small
    exact (UInt16.toNat_ofNat_of_lt small).symm
  · rintro ⟨present, digits, same⟩
    have small : port.toNat ≤ maxWord16 := Nat.le_pred_of_lt port.toNat_lt
    exact ⟨port.toNat, numeral?_eq_some_iff.mpr ⟨present, digits, same, small⟩,
      UInt16.ofNat_toNat⟩

theorem Protocol.parse_eq_ok_iff {name : String} {protocol : Protocol} :
    parse name = .ok protocol ↔ name ∈ protocol.spellings := by
  constructor
  · intro read
    unfold parse at read
    split at read
    · next spelt =>
      cases read
      simpa [spellings] using spelt
    split at read
    · next spelt =>
      cases read
      simpa [spellings] using spelt
    split at read
    · next spelt =>
      cases read
      simpa [spellings] using spelt
    · cases read
  · intro spelt
    cases protocol <;>
      · rcases List.mem_cons.mp spelt with rfl | spelt
        · decide
        · rw [List.mem_singleton.mp spelt]
          decide

/-! ### Sides -/

namespace PortBinding

theorem readContainerSide_derives {token side : List Char} {port : UInt16} {protocol : Protocol} :
    readContainerSide token side = .ok (port, protocol) ↔ DerivesContainer port protocol side := by
  rw [readContainerSide_eq_ok_iff]
  constructor
  · rintro ⟨number, name, rfl, slashless, found, named⟩
    have derived := DerivesContainer.mk (word16?_eq_some_iff.mp found) (padded_trimBlank number)
      slashless (Protocol.parse_eq_ok_iff.mp named)
    rwa [String.toList_ofList] at derived
  · intro derived
    cases derived with
    | @mk digits number name derives padded slashless spelt =>
      refine ⟨number, name.toList, rfl, slashless, ?_, ?_⟩
      · rw [padded.trimBlank_eq]
        exact word16?_eq_some_iff.mpr derives
      · rw [String.ofList_toList]
        exact Protocol.parse_eq_ok_iff.mpr spelt

theorem readHostSide_derives {token side : List Char} {address : HostAddress} :
    readHostSide token side = .ok address ↔ DerivesHost address side := by
  rw [readHostSide_eq_ok_iff]
  constructor
  · rintro ⟨number, rfl, colonless, found⟩
    exact .mk (word16?_eq_some_iff.mp found) (padded_trimBlank number) colonless
  · intro derived
    cases derived with
    | @mk host port digits number derives padded colonless =>
      refine ⟨number, rfl, colonless, ?_⟩
      rw [padded.trimBlank_eq]
      exact word16?_eq_some_iff.mpr derives

theorem arrowPieces_eq_one_iff {token container : List Char} :
    arrowPieces token = [container] ↔ token = container ∧ Arrowless container := by
  constructor
  · intro cut
    have joined := intercalate_arrowPieces token
    rw [cut, List.intercalate_singleton] at joined
    have mem : container ∈ arrowPieces token := by simp [cut]
    exact ⟨joined.symm, free_of_mem_arrowPieces mem⟩
  · rintro ⟨rfl, arrowless⟩
    exact arrowPieces_of_free arrowless

theorem arrowPieces_eq_two_iff {token host container : List Char} :
    arrowPieces token = [host, container] ↔
      token = host ++ '-' :: '>' :: container ∧ Arrowless host ∧ Arrowless container := by
  constructor
  · intro cut
    have joined := intercalate_arrowPieces token
    rw [cut, List.intercalate_cons_cons, List.intercalate_singleton, List.append_assoc] at joined
    have mem : host ∈ arrowPieces token := by simp [cut]
    have mem' : container ∈ arrowPieces token := by simp [cut]
    exact ⟨joined.symm, free_of_mem_arrowPieces mem, free_of_mem_arrowPieces mem'⟩
  · rintro ⟨rfl, arrowless, arrowless'⟩
    rw [arrowPieces_append_arrow arrowless, arrowPieces_of_free arrowless']

/-! ### Bindings -/

/-- A text is read as a binding when the rules derive it for the binding. -/
theorem parse_eq_ok_iff {s : String} {binding : PortBinding} :
    parse s = .ok binding ↔ DerivesBinding binding s.toList := by
  rw [parse, parseTrimmed_eq_ok_iff]
  constructor
  · obtain ⟨port, protocol, host⟩ := binding
    rintro ⟨containerSide, read, sides⟩
    have derives := readContainerSide_derives.mp read
    cases host with
    | none =>
      obtain ⟨whole, arrowless⟩ := arrowPieces_eq_one_iff.mp sides
      -- The only side is the trimmed text, and trimming it again does nothing.
      have once : trimBlank containerSide = trimBlank s.toList := by
        rw [← whole, (trimmed_trimBlank s.toList).trimBlank_eq]
      rw [once] at derives
      exact .unpublished derives (whole ▸ arrowless) (padded_trimBlank s.toList)
    | some address =>
      obtain ⟨hostSide, sides, readHost⟩ := sides
      obtain ⟨whole, arrowless, arrowless'⟩ := arrowPieces_eq_two_iff.mp sides
      exact .published (readHostSide_derives.mp readHost) (padded_trimBlank hostSide) derives
        (padded_trimBlank containerSide) arrowless arrowless' (whole ▸ padded_trimBlank s.toList)
  · intro derived
    cases derived with
    | @unpublished port protocol container _ derives arrowless padded =>
      refine ⟨container, ?_, ?_⟩
      · rw [padded.1.trimBlank_eq]
        exact readContainerSide_derives.mpr derives
      · rw [padded.trimBlank_eq]
        exact arrowPieces_of_free arrowless
    | @published port protocol address host hostSide container containerSide _ derivesHost
        paddedHost derives paddedContainer arrowless arrowless' padded =>
      refine ⟨containerSide, ?_, hostSide, ?_, ?_⟩
      · rw [paddedContainer.trimBlank_eq]
        exact readContainerSide_derives.mpr derives
      · rw [padded.trimBlank_eq]
        exact arrowPieces_eq_two_iff.mpr ⟨rfl, arrowless, arrowless'⟩
      · rw [paddedHost.trimBlank_eq]
        exact readHostSide_derives.mpr derivesHost

end PortBinding

/-! ### Listings -/

/-- A text is cut at every occurrence of a separator. -/
structure SplitsAt (sep : Char) (cs : List Char) (parts : List (List Char)) : Prop where
  present : parts ≠ []
  free : ∀ part ∈ parts, sep ∉ part
  joined : [sep].intercalate parts = cs

theorem splitsAt_iff {sep : Char} {cs : List Char} {parts : List (List Char)} :
    SplitsAt sep cs parts ↔ parts = pieces sep cs := by
  constructor
  · intro splits
    rw [← splits.joined, pieces_intercalate splits.present splits.free]
  · rintro rfl
    exact ⟨pieces_ne_nil sep cs, fun part => not_mem_of_mem_pieces, intercalate_pieces sep cs⟩

/-- The parts of a listing that are not blank, as they stand in it. -/
def entriesOf (parts : List (List Char)) : List String :=
  (parts.filter fun part => !part.all isBlank).map String.ofList

theorem parsePortList_eq_mapM {listing : String} {parts : List (List Char)}
    (splits : SplitsAt ',' listing.toList parts) :
    parsePortList listing = (entriesOf parts).mapM PortBinding.parse := by
  have filled : (fun token : List Char => !token.isEmpty) ∘ trimBlank =
      fun part => !part.all isBlank := by
    funext part
    have blank : (trimBlank part).isEmpty = part.all isBlank := by
      rw [Bool.eq_iff_iff, List.isEmpty_iff, trimBlank_eq_nil_iff, List.all_eq_true]
    simp [blank]
  have reading : PortBinding.parse ∘ String.ofList = PortBinding.parseTrimmed ∘ trimBlank := by
    funext part
    simp [PortBinding.parse]
  rw [parsePortList, ← splitsAt_iff.mp splits, entriesOf, List.filter_map, filled, List.mapM_map,
    List.mapM_map, reading]

/-- A traversal fails with what it fails with on the first element that it fails on. -/
theorem mapM_eq_error_iff {ε α β : Type} {f : α → Except ε β} {xs : List α} {cause : ε} :
    xs.mapM f = .error cause ↔ ∃ before x after, xs = before ++ x :: after ∧
      (∀ y ∈ before, ∃ b, f y = .ok b) ∧ f x = .error cause := by
  constructor
  · intro failed
    induction xs with
    | nil => cases failed
    | cons x rest ih =>
      rw [List.mapM_cons] at failed
      cases read : f x with
      | error cause' =>
        rw [read] at failed
        cases failed
        exact ⟨[], x, rest, rfl, fun y mem => absurd mem List.not_mem_nil, read⟩
      | ok b =>
        have failedRest : rest.mapM f = .error cause := by
          rw [read] at failed
          cases readRest : rest.mapM f with
          | error cause' =>
            rw [readRest] at failed
            exact failed
          | ok bs =>
            rw [readRest] at failed
            cases failed
        obtain ⟨before, y, after, rfl, fine, here⟩ := ih failedRest
        exact ⟨x :: before, y, after, rfl, List.forall_mem_cons.mpr ⟨⟨b, read⟩, fine⟩, here⟩
  · rintro ⟨before, x, after, rfl, fine, here⟩
    induction before with
    | nil =>
      rw [List.nil_append, List.mapM_cons, here]
      rfl
    | cons y rest ih =>
      obtain ⟨⟨b, read⟩, fine⟩ := List.forall_mem_cons.mp fine
      rw [List.cons_append, List.mapM_cons, read, ih fine]
      rfl

end ContainerFixture
