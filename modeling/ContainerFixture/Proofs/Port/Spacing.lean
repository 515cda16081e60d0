import ContainerFixture.Proofs.Port.Grammar
import Mathlib.Logic.Relation

/-!
# White space in listings of ports

Main result: `parsePortList_grammatical`. Bindings are read by their grammar, listings entry by
entry, and blanks that are added at the ends of a listing, around its commas or around its arrows
change neither whether it is read, nor as what, nor the kind of the error. They can change the text
that an error quotes.

The reader cuts before it trims. So it is shown that it looks at nothing but the trimmed sides of
each entry (`mapM_parseTrimmed_kind`), and that adding blanks leaves these as they are
(`Spaced.sides`).
-/

namespace ContainerFixture

open Text

inductive PortErrorKind where
  | malformed
  | invalidPort
  | unknownProtocol
deriving DecidableEq, Repr

/-- An error without the text that it quotes. -/
def PortError.kind : PortError → PortErrorKind
  | .malformed _ => .malformed
  | .invalidPort _ => .invalidPort
  | .unknownProtocol _ => .unknownProtocol

/-- Blanks are added to a listing: at an end, around a comma or around an arrow. -/
inductive Spaced : List Char → List Char → Prop where
  | front {gap : List Char} (blank : ∀ c ∈ gap, isBlank c = true) (cs : List Char) :
    Spaced cs (gap ++ cs)
  | back {gap : List Char} (blank : ∀ c ∈ gap, isBlank c = true) (cs : List Char) :
    Spaced cs (cs ++ gap)
  | comma {gap gap' : List Char} (blank : ∀ c ∈ gap, isBlank c = true)
      (blank' : ∀ c ∈ gap', isBlank c = true) (before after : List Char) :
    Spaced (before ++ ',' :: after) ((before ++ gap) ++ ',' :: (gap' ++ after))
  | arrow {gap gap' : List Char} (blank : ∀ c ∈ gap, isBlank c = true)
      (blank' : ∀ c ∈ gap', isBlank c = true) (before after : List Char) :
    Spaced (before ++ '-' :: '>' :: after) ((before ++ gap) ++ '-' :: '>' :: (gap' ++ after))

/-! ### The sides of an entry -/

variable {gap gap' cs before after : List Char}

theorem not_mem_of_blank {c : Char} (visible : isBlank c = false)
    (blank : ∀ c ∈ gap, isBlank c = true) : c ∉ gap := by
  intro mem
  rw [blank c mem] at visible
  cases visible

theorem Arrowless.lead (arrowless : Arrowless cs) (blank : ∀ c ∈ gap, isBlank c = true) :
    Arrowless (gap ++ cs) := by
  induction gap with
  | nil => exact arrowless
  | cons c rest ih =>
    obtain ⟨here, later⟩ := List.forall_mem_cons.mp blank
    intro inside
    rcases List.infix_cons_iff.mp inside with ⟨more, whole⟩ | inside
    · -- An arrow does not start with a blank.
      obtain ⟨rfl, -⟩ := List.cons.inj whole
      cases here
    · exact ih later inside

theorem Arrowless.trail (arrowless : Arrowless cs) (blank : ∀ c ∈ gap, isBlank c = true) :
    Arrowless (cs ++ gap) := by
  cases gap with
  | nil => simpa using arrowless
  | cons c rest =>
    obtain ⟨here, later⟩ := List.forall_mem_cons.mp blank
    have tail : c ≠ '-' := by
      rintro rfl
      cases here
    have head : c ≠ '>' := by
      rintro rfl
      cases here
    refine arrow_free_append_cons tail head arrowless ?_
    intro inside
    exact not_mem_of_blank (by decide) later (inside.subset List.mem_cons_self)

/-- The trimmed sides of an entry: those of the host and of the container, or fewer or more. -/
def portSides (token : List Char) : List (List Char) := (arrowPieces token).map trimBlank

theorem portSides_lead (blank : ∀ c ∈ gap, isBlank c = true) (cs : List Char) :
    portSides (gap ++ cs) = portSides cs := by
  obtain ⟨first, back, cut⟩ := List.exists_cons_of_ne_nil (arrowPieces_ne_nil cs)
  have free (side : List Char) (mem : side ∈ first :: back) : Arrowless side :=
    free_of_mem_arrowPieces (cut ▸ mem)
  -- The blanks go to the front of the first side, where they are trimmed away.
  have cutGap : arrowPieces (gap ++ cs) = (gap ++ first) :: back := by
    have joined : ['-', '>'].intercalate (first :: back) = cs := cut ▸ intercalate_arrowPieces cs
    have whole : ['-', '>'].intercalate ((gap ++ first) :: back) = gap ++ cs := by
      rw [← joined]
      simpa using intercalate_splice ['-', '>'] [] back gap first
    rw [← whole]
    apply arrowPieces_intercalate (List.cons_ne_nil _ _)
    intro side mem
    rcases List.mem_cons.mp mem with rfl | mem
    · exact (free first List.mem_cons_self).lead blank
    · exact free side (List.mem_cons_of_mem _ mem)
  rw [portSides, portSides, cutGap, cut, List.map_cons, List.map_cons, trimBlank_append_left blank]

theorem portSides_trail (blank : ∀ c ∈ gap, isBlank c = true) (cs : List Char) :
    portSides (cs ++ gap) = portSides cs := by
  obtain ⟨front, last, cut⟩ :=
    (List.eq_nil_or_concat (arrowPieces cs)).resolve_left (arrowPieces_ne_nil cs)
  rw [List.concat_eq_append] at cut
  have free (side : List Char) (mem : side ∈ front ++ [last]) : Arrowless side :=
    free_of_mem_arrowPieces (cut ▸ mem)
  have cutGap : arrowPieces (cs ++ gap) = front ++ [last ++ gap] := by
    have joined : ['-', '>'].intercalate (front ++ [last]) = cs := cut ▸ intercalate_arrowPieces cs
    have whole : ['-', '>'].intercalate (front ++ [last ++ gap]) = cs ++ gap := by
      rw [intercalate_splice, joined, List.intercalate_singleton]
    rw [← whole]
    apply arrowPieces_intercalate (List.append_ne_nil_of_right_ne_nil _ (List.cons_ne_nil _ _))
    intro side mem
    rcases List.mem_append.mp mem with mem | mem
    · exact free side (List.mem_append_left _ mem)
    · rw [List.mem_singleton.mp mem]
      exact (free last (by simp)).trail blank
  simp [portSides, cutGap, cut, trimBlank_append_right blank]

theorem portSides_append (before after : List Char) :
    portSides (before ++ '-' :: '>' :: after) = portSides before ++ portSides after := by
  rw [portSides, arrowPieces_append, List.map_append]
  rfl

theorem portSides_trimBlank (cs : List Char) : portSides (trimBlank cs) = portSides cs := by
  obtain ⟨lead, trail, blank, blank', whole⟩ := exists_blank_around cs
  conv_rhs => rw [whole, portSides_lead blank, portSides_trail blank']

theorem portSides_eq_blank_iff : portSides cs = [[]] ↔ trimBlank cs = [] := by
  constructor
  · intro sides
    obtain ⟨side, cut, empty⟩ := List.map_eq_singleton_iff.mp sides
    rwa [(PortBinding.arrowPieces_eq_one_iff.mp cut).1]
  · intro empty
    rw [← portSides_trimBlank, empty]
    rfl

/-! ### What the reader looks at -/

theorem mapError_bind {ε ε' α β : Type} (restate : ε → ε') (step : Except ε α)
    (next : α → Except ε β) :
    (step >>= next).mapError restate =
      step.mapError restate >>= fun a => (next a).mapError restate := by
  cases step <;> rfl

namespace PortBinding

theorem readContainerSide_kind (token token' side : List Char) :
    (readContainerSide token side).mapError PortError.kind =
      (readContainerSide token' side).mapError PortError.kind := by
  unfold readContainerSide
  split <;> rfl

theorem readHostSide_kind (token token' side : List Char) :
    (readHostSide token side).mapError PortError.kind =
      (readHostSide token' side).mapError PortError.kind := by
  unfold readHostSide
  split <;> rfl

theorem parseTrimmed_kind {token token' : List Char} (same : portSides token = portSides token') :
    (parseTrimmed token).mapError PortError.kind =
      (parseTrimmed token').mapError PortError.kind := by
  unfold portSides at same
  unfold parseTrimmed
  rw [same]
  split
  · next container _ =>
    rw [mapError_bind, mapError_bind, readContainerSide_kind token token']
  · next host container _ =>
    rw [mapError_bind, mapError_bind, readContainerSide_kind token token']
    congr 1
    funext side
    rw [mapError_bind, mapError_bind, readHostSide_kind token token']
  · rfl

end PortBinding

/-- The reader of a listing looks at the sides of its parts only. The induction is on the parts. -/
theorem mapM_parseTrimmed_kind {parts parts' : List (List Char)}
    (same : parts.map portSides = parts'.map portSides) :
    (((parts.map trimBlank).filter fun token => !token.isEmpty).mapM
        PortBinding.parseTrimmed).mapError PortError.kind =
      (((parts'.map trimBlank).filter fun token => !token.isEmpty).mapM
        PortBinding.parseTrimmed).mapError PortError.kind := by
  induction parts generalizing parts' with
  | nil =>
    rw [List.map_eq_nil_iff.mp same.symm]
  | cons part others ih =>
    obtain ⟨part', others', rfl, sides, later⟩ := List.map_eq_cons_iff.mp same.symm
    have rest := ih later.symm
    have blankAlike : trimBlank part = [] ↔ trimBlank part' = [] := by
      rw [← portSides_eq_blank_iff, ← portSides_eq_blank_iff, sides]
    by_cases blank : trimBlank part = []
    · have blank' := blankAlike.mp blank
      simpa [blank, blank'] using rest
    · have filled' : ¬ trimBlank part' = [] := fun empty => blank (blankAlike.mpr empty)
      have first : (PortBinding.parseTrimmed (trimBlank part)).mapError PortError.kind =
          (PortBinding.parseTrimmed (trimBlank part')).mapError PortError.kind := by
        apply PortBinding.parseTrimmed_kind
        rw [portSides_trimBlank, portSides_trimBlank, sides]
      have kept (token : List Char) (tokens : List (List Char)) (filled : ¬ token = []) :
          (token :: tokens).filter (fun token => !token.isEmpty) =
            token :: tokens.filter fun token => !token.isEmpty := by
        simp [filled]
      rw [List.map_cons, List.map_cons, kept _ _ blank, kept _ _ filled', List.mapM_cons,
        List.mapM_cons, mapError_bind, mapError_bind, first]
      congr 1
      funext binding
      rw [mapError_bind, mapError_bind, rest]

/-! ### Added blanks -/

theorem map_portSides_lead (blank : ∀ c ∈ gap, isBlank c = true) (cs : List Char) :
    (pieces ',' (gap ++ cs)).map portSides = (pieces ',' cs).map portSides := by
  obtain ⟨front, last, first, back, cut, cut', around⟩ := pieces_around ',' [] cs
  obtain ⟨rfl, rfl⟩ : front = [] ∧ last = [] := by
    cases front <;> simp_all [pieces]
  have whole := around gap (not_mem_of_blank (by decide) blank)
  simp only [List.nil_append] at whole
  rw [whole, cut', List.map_cons, List.map_cons, portSides_lead blank]

theorem map_portSides_trail (blank : ∀ c ∈ gap, isBlank c = true) (cs : List Char) :
    (pieces ',' (cs ++ gap)).map portSides = (pieces ',' cs).map portSides := by
  obtain ⟨front, last, first, back, cut, cut', around⟩ := pieces_around ',' cs []
  obtain ⟨rfl, rfl⟩ : [] = first ∧ [] = back := List.cons.inj cut'
  have whole := around gap (not_mem_of_blank (by decide) blank)
  simp only [List.append_nil] at whole
  rw [whole, cut, List.map_append, List.map_append, List.map_singleton, List.map_singleton,
    portSides_trail blank]

theorem map_portSides_arrow (blank : ∀ c ∈ gap, isBlank c = true)
    (blank' : ∀ c ∈ gap', isBlank c = true) (before after : List Char) :
    (pieces ',' ((before ++ gap) ++ '-' :: '>' :: (gap' ++ after))).map portSides =
      (pieces ',' (before ++ '-' :: '>' :: after)).map portSides := by
  -- The arrow is inside of one part, with or without blanks around it.
  obtain ⟨front, last, first, back, -, -, around⟩ := pieces_around ',' before after
  have bare := around ['-', '>'] (by decide)
  have wide := around (gap ++ ('-' :: '>' :: gap')) (by
    simp only [List.mem_append, List.mem_cons, not_or]
    exact ⟨not_mem_of_blank (by decide) blank, by decide, by decide,
      not_mem_of_blank (by decide) blank'⟩)
  simp only [List.append_assoc, List.cons_append, List.nil_append] at bare wide
  rw [List.append_assoc, bare, wide, List.map_append, List.map_append, List.map_cons,
    List.map_cons, ← List.append_assoc, portSides_append, portSides_append, portSides_trail blank,
    portSides_lead blank']

theorem Spaced.sides {cs cs' : List Char} (spaced : Spaced cs cs') :
    (pieces ',' cs').map portSides = (pieces ',' cs).map portSides := by
  cases spaced with
  | front blank => exact map_portSides_lead blank cs
  | back blank => exact map_portSides_trail blank cs
  | comma blank blank' before after =>
    rw [pieces_append, pieces_append, List.map_append, List.map_append, map_portSides_trail blank,
      map_portSides_lead blank']
  | arrow blank blank' before after => exact map_portSides_arrow blank blank' before after

theorem sides_of_spaced {cs cs' : List Char} (added : Relation.ReflTransGen Spaced cs cs') :
    (pieces ',' cs').map portSides = (pieces ',' cs).map portSides := by
  induction added with
  | refl => rfl
  | tail _ last ih => exact last.sides.trans ih

/-- Bindings are read by their grammar; a listing is read when each of its parts that is not blank
is, and fails with the error of the first that is not; and blanks around its commas, around its
arrows and at its ends do not count. -/
theorem parsePortList_grammatical :
    (∀ (text : String) (binding : PortBinding),
      PortBinding.parse text = .ok binding ↔ DerivesBinding binding text.toList) ∧
    (∀ listing : String, ∃ parts, SplitsAt ',' listing.toList parts ∧
      (∀ bindings, parsePortList listing = .ok bindings ↔
        List.Forall₂ (fun entry binding => PortBinding.parse entry = .ok binding)
          (entriesOf parts) bindings) ∧
      (∀ cause, parsePortList listing = .error cause ↔
        ∃ before entry after, entriesOf parts = before ++ entry :: after ∧
          (∀ earlier ∈ before, ∃ binding, PortBinding.parse earlier = .ok binding) ∧
          PortBinding.parse entry = .error cause)) ∧
    ∀ listing spaced : String, Relation.ReflTransGen Spaced listing.toList spaced.toList →
      (parsePortList spaced).mapError PortError.kind =
        (parsePortList listing).mapError PortError.kind := by
  refine ⟨fun text binding => PortBinding.parse_eq_ok_iff, ?_, ?_⟩
  · intro listing
    have splits := splitsAt_iff.mpr (rfl : pieces ',' listing.toList = _)
    refine ⟨_, splits, ?_, ?_⟩
    · intro bindings
      rw [parsePortList_eq_mapM splits, mapM_eq_ok_iff]
    · intro cause
      rw [parsePortList_eq_mapM splits, mapM_eq_error_iff]
  · intro listing spaced added
    exact mapM_parseTrimmed_kind (sides_of_spaced added)

end ContainerFixture
