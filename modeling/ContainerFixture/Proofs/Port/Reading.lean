import ContainerFixture.Port
import Mathlib.Data.List.Forall2

/-!
# What the reader of port bindings accepts

Each function that reads a part of a binding succeeds exactly on the texts of one form. Main result:
`PortBinding.parseTrimmed_eq_ok_iff`, which puts the forms together, and `parsePortList_eq_ok_iff`,
which says the same of listings.
-/

namespace ContainerFixture

open Text

/-- A traversal that may fail succeeds when it does so on each element. -/
theorem mapM_eq_ok_iff {ε α β : Type} {f : α → Except ε β} {xs : List α} {ys : List β} :
    xs.mapM f = .ok ys ↔ List.Forall₂ (fun x y => f x = .ok y) xs ys := by
  induction xs generalizing ys with
  | nil => cases ys <;> simp [pure, Except.pure]
  | cons x rest ih =>
    rw [List.mapM_cons, List.forall₂_cons_left_iff]
    simp only [← ih]
    cases read : f x with
    | error cause => simp [bind, Except.bind]
    | ok y =>
      cases readRest : rest.mapM f with
      | error cause => simp [bind, Except.bind]
      | ok later => simp [bind, Except.bind, pure, Except.pure, eq_comm]

theorem exists_of_mapM_ok {ε α β : Type} {f : α → Except ε β} {xs : List α} {ys : List β}
    (done : xs.mapM f = .ok ys) : ∀ x ∈ xs, ∃ y, f x = .ok y := by
  have related := mapM_eq_ok_iff.mp done
  clear done
  induction related with
  | nil => simp
  | cons here _ ih => exact List.forall_mem_cons.mpr ⟨⟨_, here⟩, ih⟩

/-- What a traversal fails with is what it fails with on some element. -/
theorem exists_of_mapM_error {ε α β : Type} {f : α → Except ε β} {xs : List α} {cause : ε}
    (failed : xs.mapM f = .error cause) : ∃ x ∈ xs, f x = .error cause := by
  induction xs with
  | nil => cases failed
  | cons x rest ih =>
    rw [List.mapM_cons] at failed
    cases read : f x with
    | error cause' =>
      rw [read] at failed
      cases failed
      exact ⟨x, List.mem_cons_self, read⟩
    | ok y =>
      rw [read] at failed
      cases readRest : rest.mapM f with
      | error cause' =>
        rw [readRest] at failed
        cases failed
        obtain ⟨x', mem, here⟩ := ih readRest
        exact ⟨x', List.mem_cons_of_mem _ mem, here⟩
      | ok later =>
        rw [readRest] at failed
        cases failed

theorem exists_of_forall₂ {α β : Type} {related : α → β → Prop} {xs : List α} {ys : List β}
    (all : List.Forall₂ related xs ys) {y : β} (mem : y ∈ ys) : ∃ x ∈ xs, related x y := by
  induction all with
  | nil => cases mem
  | cons first rest ih =>
    rcases List.mem_cons.mp mem with rfl | later
    · exact ⟨_, List.mem_cons_self, first⟩
    · obtain ⟨x, found, here⟩ := ih later
      exact ⟨x, List.mem_cons_of_mem _ found, here⟩

theorem Protocol.parse_text (protocol : Protocol) : parse protocol.text = .ok protocol := by
  cases protocol <;> decide

namespace PortBinding

theorem readPort_eq_ok_iff {cs : List Char} {port : UInt16} :
    readPort cs = .ok port ↔ word16? (trimBlank cs) = some port := by
  unfold readPort
  split
  · next found => simp [found]
  · next missing => simp [missing]

theorem readContainerSide_eq_ok_iff {token side : List Char} {port : UInt16}
    {protocol : Protocol} : readContainerSide token side = .ok (port, protocol) ↔
      ∃ number name, side = number ++ '/' :: name ∧ '/' ∉ number ∧
        word16? (trimBlank number) = some port ∧
        Protocol.parse (String.ofList name) = .ok protocol := by
  constructor
  · intro read
    unfold readContainerSide at read
    split at read
    · cases read
    · next number name cut =>
      obtain ⟨whole, slashless⟩ := atFirst_eq_some_iff.mp cut
      simp only [bind, Except.bind, pure, Except.pure] at read
      split at read
      · cases read
      next found =>
      split at read
      · cases read
      next named =>
      cases read
      exact ⟨number, name, whole, slashless, readPort_eq_ok_iff.mp found, named⟩
  · rintro ⟨number, name, whole, slashless, found, named⟩
    have cut : atFirst '/' side = some (number, name) :=
      atFirst_eq_some_iff.mpr ⟨whole, slashless⟩
    simp [readContainerSide, cut, readPort_eq_ok_iff.mpr found, named, bind, Except.bind, pure,
      Except.pure]

theorem readHostSide_eq_ok_iff {token side : List Char} {address : HostAddress} :
    readHostSide token side = .ok address ↔
      ∃ number, side = address.host.toList ++ ':' :: number ∧ ':' ∉ number ∧
        word16? (trimBlank number) = some address.port := by
  constructor
  · intro read
    unfold readHostSide at read
    split at read
    · cases read
    · next host number cut =>
      obtain ⟨whole, colonless⟩ := atLast_eq_some_iff.mp cut
      cases found : readPort number with
      | error cause => simp [found, Except.map] at read
      | ok port =>
        simp only [found, Except.map, Except.ok.injEq] at read
        obtain rfl := read
        exact ⟨number, by simpa using whole, colonless, readPort_eq_ok_iff.mp found⟩
  · rintro ⟨number, whole, colonless, found⟩
    have cut : atLast ':' side = some (address.host.toList, number) :=
      atLast_eq_some_iff.mpr ⟨whole, colonless⟩
    simp [readHostSide, cut, readPort_eq_ok_iff.mpr found, Except.map]

/-- A binding without a host is read from one side, and one with a host from two. -/
theorem parseTrimmed_eq_ok_iff {token : List Char} {binding : PortBinding} :
    parseTrimmed token = .ok binding ↔
      ∃ container,
        readContainerSide token (trimBlank container) =
          .ok (binding.containerPort, binding.protocol) ∧
        match binding.host with
        | none => arrowPieces token = [container]
        | some address => ∃ host, arrowPieces token = [host, container] ∧
            readHostSide token (trimBlank host) = .ok address := by
  constructor
  · intro read
    unfold parseTrimmed at read
    simp only [bind, Except.bind, pure, Except.pure] at read
    split at read
    · next side sides =>
      obtain ⟨container, pieces, rfl⟩ := List.map_eq_singleton_iff.mp sides
      split at read
      · cases read
      next side found =>
      cases read
      exact ⟨container, found, pieces⟩
    · next hostSide side sides =>
      obtain ⟨host, rest, pieces, rfl, last⟩ := List.map_eq_cons_iff.mp sides
      obtain ⟨container, rfl, rfl⟩ := List.map_eq_singleton_iff.mp last
      split at read
      · cases read
      next side found =>
      split at read
      · cases read
      next address foundHost =>
      cases read
      exact ⟨container, found, host, pieces, foundHost⟩
    · cases read
  · rintro ⟨container, found, sides⟩
    obtain ⟨port, protocol, host⟩ := binding
    cases host with
    | none =>
      have pieces : arrowPieces token = [container] := sides
      simp [parseTrimmed, pieces, found, bind, Except.bind, pure, Except.pure]
    | some address =>
      obtain ⟨host, pieces, foundHost⟩ := sides
      simp [parseTrimmed, pieces, found, foundHost, bind, Except.bind, pure, Except.pure]

end PortBinding

/-- The entries of a listing: what stands between the commas and is not blank, trimmed. -/
def portTokens (listing : List Char) : List (List Char) :=
  ((pieces ',' listing).map trimBlank).filter fun token => !token.isEmpty

theorem parsePortList_eq_ok_iff {listing : String} {bindings : List PortBinding} :
    parsePortList listing = .ok bindings ↔
      List.Forall₂ (fun token binding => PortBinding.parseTrimmed token = .ok binding)
        (portTokens listing.toList) bindings :=
  mapM_eq_ok_iff

end ContainerFixture
