/-!
# Cutting texts at separators

Texts are cut as lists of characters. `atFirst` and `atLast` cut once, `pieces` cuts at every
occurrence of one character and `arrowPieces` at every occurrence of an arrow. Joining the parts
again with the separator gives the text back.
-/
namespace ContainerFixture.Text

/-- The text before and the text after the first `sep`, or nothing when there is none. -/
def atFirst (sep : Char) : List Char → Option (List Char × List Char)
  | [] => none
  | c :: rest =>
    if c = sep then some ([], rest)
    else (atFirst sep rest).map fun parts => (c :: parts.1, parts.2)

/-- The text before and the text after the last `sep`, or nothing when there is none. -/
def atLast (sep : Char) : List Char → Option (List Char × List Char)
  | [] => none
  | c :: rest =>
    match atLast sep rest with
    | some parts => some (c :: parts.1, parts.2)
    | none => if c = sep then some ([], rest) else none

/-- The stretches between the occurrences of `sep`: always at least one, possibly empty. -/
def pieces (sep : Char) : List Char → List (List Char)
  | [] => [[]]
  | c :: rest =>
    if c = sep then [] :: pieces sep rest
    else
      match pieces sep rest with
      | [] => [[c]]
      | piece :: others => (c :: piece) :: others

/-- The stretches between the occurrences of `->`, found from the left. -/
def arrowPieces : List Char → List (List Char)
  | [] => [[]]
  | '-' :: '>' :: rest => [] :: arrowPieces rest
  | c :: rest =>
    match arrowPieces rest with
    | [] => [[c]]
    | piece :: others => (c :: piece) :: others

/-- The stretches of a text without spaces and line feeds, in order. -/
def words : List Char → List (List Char)
  | [] => []
  | [c] => if c = ' ' || c = '\n' then [] else [[c]]
  | c :: d :: rest =>
    if c = ' ' || c = '\n' then words (d :: rest)
    else if d = ' ' || d = '\n' then [c] :: words (d :: rest)
    else
      match words (d :: rest) with
      | [] => [[c]]
      | word :: others => (c :: word) :: others

theorem atFirst_eq_none_iff {sep : Char} {cs : List Char} :
    atFirst sep cs = none ↔ sep ∉ cs := by
  induction cs with
  | nil => simp [atFirst]
  | cons c rest ih =>
    by_cases here : c = sep
    · simp [atFirst, here]
    · simp [atFirst, here, ih, Ne.symm here]

theorem atFirst_eq_some_iff {sep : Char} {cs before after : List Char} :
    atFirst sep cs = some (before, after) ↔ cs = before ++ sep :: after ∧ sep ∉ before := by
  induction cs generalizing before with
  | nil => simp [atFirst]
  | cons c rest ih =>
    by_cases here : c = sep
    · subst here
      cases before with
      | nil => simp [atFirst, eq_comm]
      | cons d more => simp +contextual [atFirst]
    · cases before with
      | nil => simp [atFirst, here]
      | cons d more =>
        simp only [atFirst, here, if_false, Option.map_eq_some_iff, Prod.mk.injEq, Prod.exists,
          List.cons.injEq, List.cons_append, List.mem_cons, not_or]
        constructor
        · rintro ⟨left, right, cut, ⟨rfl, rfl⟩, rfl⟩
          obtain ⟨whole, absent⟩ := ih.mp cut
          exact ⟨⟨rfl, whole⟩, Ne.symm here, absent⟩
        · rintro ⟨⟨rfl, whole⟩, -, absent⟩
          exact ⟨more, after, ih.mpr ⟨whole, absent⟩, ⟨rfl, rfl⟩, rfl⟩

theorem atLast_eq_some {sep : Char} {cs before after : List Char}
    (cut : atLast sep cs = some (before, after)) : cs = before ++ sep :: after := by
  induction cs generalizing before after with
  | nil => simp [atLast] at cut
  | cons c rest ih =>
    cases later : atLast sep rest with
    | some parts =>
      simp only [atLast, later, Option.some.injEq, Prod.mk.injEq] at cut
      obtain ⟨rfl, rfl⟩ := cut
      simp [ih later]
    | none =>
      simp only [atLast, later] at cut
      split at cut
      · next here =>
        simp only [Option.some.injEq, Prod.mk.injEq] at cut
        obtain ⟨rfl, rfl⟩ := cut
        simp [here]
      · simp at cut

theorem atLast_eq_none_iff {sep : Char} {cs : List Char} :
    atLast sep cs = none ↔ sep ∉ cs := by
  induction cs with
  | nil => simp [atLast]
  | cons c rest ih =>
    cases later : atLast sep rest with
    | some parts =>
      have present : sep ∈ rest := by simp [atLast_eq_some later]
      simp [atLast, later, present]
    | none =>
      have absent : sep ∉ rest := ih.mp later
      by_cases here : c = sep
      · simp [atLast, later, here]
      · simp [atLast, later, here, absent, Ne.symm here]

theorem atLast_eq_some_iff {sep : Char} {cs before after : List Char} :
    atLast sep cs = some (before, after) ↔ cs = before ++ sep :: after ∧ sep ∉ after := by
  constructor
  · intro cut
    refine ⟨atLast_eq_some cut, ?_⟩
    induction cs generalizing before with
    | nil => simp [atLast] at cut
    | cons c rest ih =>
      cases later : atLast sep rest with
      | some parts =>
        simp only [atLast, later, Option.some.injEq, Prod.mk.injEq] at cut
        obtain ⟨rfl, rfl⟩ := cut
        exact ih later
      | none =>
        -- The separator at hand is the last one.
        simp only [atLast, later] at cut
        split at cut
        · simp only [Option.some.injEq, Prod.mk.injEq] at cut
          obtain ⟨rfl, rfl⟩ := cut
          exact atLast_eq_none_iff.mp later
        · simp at cut
  · rintro ⟨rfl, absent⟩
    induction before with
    | nil => simp [atLast, atLast_eq_none_iff.mpr absent]
    | cons c more ih => simp [atLast, ih]

theorem append_cons_inj_of_first {sep : Char} {before before' after after' : List Char}
    (absent : sep ∉ before) (absent' : sep ∉ before')
    (same : before ++ sep :: after = before' ++ sep :: after') :
    before = before' ∧ after = after' := by
  have cut := atFirst_eq_some_iff.mpr ⟨same, absent'⟩
  rw [atFirst_eq_some_iff.mpr ⟨rfl, absent⟩] at cut
  exact Prod.mk.inj (Option.some.inj cut)

theorem append_cons_inj_of_last {sep : Char} {before before' after after' : List Char}
    (absent : sep ∉ after) (absent' : sep ∉ after')
    (same : before ++ sep :: after = before' ++ sep :: after') :
    before = before' ∧ after = after' := by
  have cut := atLast_eq_some_iff.mpr ⟨same, absent'⟩
  rw [atLast_eq_some_iff.mpr ⟨rfl, absent⟩] at cut
  exact Prod.mk.inj (Option.some.inj cut)

theorem pieces_ne_nil (sep : Char) (cs : List Char) : pieces sep cs ≠ [] := by
  cases cs with
  | nil => simp [pieces]
  | cons c rest =>
    simp only [pieces]
    split
    · simp
    · split <;> simp

theorem intercalate_pieces (sep : Char) (cs : List Char) :
    [sep].intercalate (pieces sep cs) = cs := by
  induction cs with
  | nil => rfl
  | cons c rest ih =>
    cases parts : pieces sep rest with
    | nil => exact absurd parts (pieces_ne_nil sep rest)
    | cons piece others =>
      rw [parts] at ih
      by_cases here : c = sep
      · simp [pieces, here, parts, List.intercalate_cons_cons, ih]
      · cases others with
        | nil => simp_all [pieces]
        | cons next more => simp_all [pieces, List.intercalate_cons_cons]

theorem intercalate_concat (sep : Char) {parts : List (List Char)} (present : parts ≠ [])
    (last : List Char) :
    [sep].intercalate (parts ++ [last]) = [sep].intercalate parts ++ sep :: last := by
  induction parts with
  | nil => exact absurd rfl present
  | cons part others ih =>
    cases others with
    | nil => simp [List.intercalate_cons_cons]
    | cons next more =>
      have rest := ih (by simp)
      rw [List.cons_append] at rest
      simp [List.intercalate_cons_cons, rest]

/-- A part that is cut in two, with parts joined to it on both sides. -/
theorem intercalate_splice (sep : List Char) (front back : List (List Char))
    (before after : List Char) :
    sep.intercalate (front ++ (before ++ after) :: back) =
      sep.intercalate (front ++ [before]) ++ sep.intercalate (after :: back) := by
  induction front with
  | nil =>
    cases back with
    | nil => simp
    | cons next more => simp [List.intercalate_cons_cons]
  | cons part others ih =>
    have more : others ++ [before] ≠ [] := List.append_ne_nil_of_right_ne_nil _ (by simp)
    have more' : others ++ (before ++ after) :: back ≠ [] :=
      List.append_ne_nil_of_right_ne_nil _ (by simp)
    rw [List.cons_append, List.cons_append, List.intercalate_cons_of_ne_nil more, List.append_assoc,
      ← ih]
    exact List.intercalate_cons_of_ne_nil more'

theorem intercalate_append (sep : List Char) {front back : List (List Char)} (present : front ≠ [])
    (present' : back ≠ []) :
    sep.intercalate (front ++ back) = sep.intercalate front ++ sep ++ sep.intercalate back := by
  obtain ⟨first, others, rfl⟩ := List.exists_cons_of_ne_nil present'
  induction front with
  | nil => exact absurd rfl present
  | cons part more ih =>
    cases more with
    | nil => simp [List.intercalate_cons_cons]
    | cons next later =>
      have rest := ih (by simp)
      rw [List.cons_append] at rest ⊢
      rw [List.cons_append, List.intercalate_cons_cons, rest, List.intercalate_cons_cons]
      simp only [List.append_assoc]

theorem mem_intercalate {c sep : Char} {pieces : List (List Char)}
    (mem : c ∈ [sep].intercalate pieces) : c = sep ∨ ∃ piece ∈ pieces, c ∈ piece := by
  induction pieces with
  | nil => cases mem
  | cons piece others ih =>
    cases others with
    | nil => exact Or.inr ⟨piece, List.mem_cons_self, by simpa using mem⟩
    | cons next more =>
      simp only [List.intercalate_cons_cons, List.mem_append, List.mem_singleton] at mem
      rcases mem with (inside | same) | later
      · exact Or.inr ⟨piece, List.mem_cons_self, inside⟩
      · exact Or.inl same
      · exact (ih later).imp id fun ⟨found, inPath, inside⟩ =>
          ⟨found, List.mem_cons_of_mem _ inPath, inside⟩

theorem not_mem_of_mem_pieces {sep : Char} {cs piece : List Char} (mem : piece ∈ pieces sep cs) :
    sep ∉ piece := by
  induction cs generalizing piece with
  | nil => simp_all [pieces]
  | cons c rest ih =>
    by_cases here : c = sep
    · simp only [pieces, here, if_true, List.mem_cons] at mem
      rcases mem with rfl | later
      · simp
      · exact ih later
    · cases parts : pieces sep rest with
      | nil => exact absurd parts (pieces_ne_nil sep rest)
      | cons first others =>
        simp only [pieces, here, if_false, parts, List.mem_cons] at mem ih
        rcases mem with rfl | later
        · have free : sep ∉ first := ih (Or.inl rfl)
          simp [free, Ne.symm here]
        · exact ih (Or.inr later)

theorem pieces_of_not_mem {sep : Char} {cs : List Char} (absent : sep ∉ cs) :
    pieces sep cs = [cs] := by
  induction cs with
  | nil => rfl
  | cons c rest ih =>
    simp only [List.mem_cons, not_or] at absent
    simp [pieces, ih absent.2, Ne.symm absent.1]

theorem pieces_append_cons {sep : Char} {before : List Char} (absent : sep ∉ before)
    (after : List Char) : pieces sep (before ++ sep :: after) = before :: pieces sep after := by
  induction before with
  | nil => simp [pieces]
  | cons c rest ih =>
    simp only [List.mem_cons, not_or] at absent
    simp [pieces, ih absent.2, Ne.symm absent.1]

/-- Parts without separators are found again when they were joined with separators. -/
theorem pieces_intercalate {sep : Char} {parts : List (List Char)} (present : parts ≠ [])
    (free : ∀ part ∈ parts, sep ∉ part) : pieces sep ([sep].intercalate parts) = parts := by
  induction parts with
  | nil => exact absurd rfl present
  | cons part others ih =>
    have first : sep ∉ part := free part List.mem_cons_self
    cases others with
    | nil => simpa using pieces_of_not_mem first
    | cons next more =>
      have rest := ih (by simp) fun later mem => free later (List.mem_cons_of_mem _ mem)
      rw [List.intercalate_cons_cons, List.append_assoc, List.singleton_append,
        pieces_append_cons first, rest]

/-- What stands between two texts and has no separator becomes part of one piece. -/
theorem pieces_around (sep : Char) (before after : List Char) :
    ∃ front last first back,
      pieces sep before = front ++ [last] ∧ pieces sep after = first :: back ∧
      ∀ middle, sep ∉ middle →
        pieces sep (before ++ (middle ++ after)) = front ++ (last ++ (middle ++ first)) :: back := by
  obtain ⟨front, last, cut⟩ :=
    (List.eq_nil_or_concat (pieces sep before)).resolve_left (pieces_ne_nil sep before)
  rw [List.concat_eq_append] at cut
  obtain ⟨first, back, cut'⟩ := List.exists_cons_of_ne_nil (pieces_ne_nil sep after)
  refine ⟨front, last, first, back, cut, cut', ?_⟩
  intro middle free
  have joined : [sep].intercalate (front ++ [last]) = before := cut ▸ intercalate_pieces sep before
  have joined' : [sep].intercalate (first :: back) = after := cut' ▸ intercalate_pieces sep after
  have whole : [sep].intercalate (front ++ (last ++ (middle ++ first)) :: back) =
      before ++ (middle ++ after) := by
    rw [intercalate_splice, joined, ← joined']
    exact congrArg (before ++ ·) (by simpa using intercalate_splice [sep] [] back middle first)
  have clear (part : List Char) (mem : part ∈ front ++ [last]) : sep ∉ part :=
    not_mem_of_mem_pieces (cut ▸ mem)
  have clear' (part : List Char) (mem : part ∈ first :: back) : sep ∉ part :=
    not_mem_of_mem_pieces (cut' ▸ mem)
  rw [← whole]
  apply pieces_intercalate (by simp)
  intro part mem
  rcases List.mem_append.mp mem with inside | here
  · exact clear part (List.mem_append_left _ inside)
  rcases List.mem_cons.mp here with rfl | inside
  · simp [clear last (by simp), free, clear' first (by simp)]
  · exact clear' part (List.mem_cons_of_mem _ inside)

theorem pieces_append (sep : Char) (before after : List Char) :
    pieces sep (before ++ sep :: after) = pieces sep before ++ pieces sep after := by
  have present := pieces_ne_nil sep before
  have present' := pieces_ne_nil sep after
  have whole : [sep].intercalate (pieces sep before ++ pieces sep after) =
      before ++ sep :: after := by
    rw [intercalate_append [sep] present present', intercalate_pieces, intercalate_pieces]
    simp
  rw [← whole]
  apply pieces_intercalate (List.append_ne_nil_of_left_ne_nil present _)
  intro part mem
  rcases List.mem_append.mp mem with inside | inside <;> exact not_mem_of_mem_pieces inside

theorem subset_intercalate {sep piece : List Char} {pieces : List (List Char)}
    (mem : piece ∈ pieces) : piece ⊆ sep.intercalate pieces := by
  induction pieces with
  | nil => cases mem
  | cons first others ih =>
    cases others with
    | nil =>
      rw [List.mem_singleton.mp mem, List.intercalate_singleton]
      exact List.Subset.refl _
    | cons next more =>
      rw [List.intercalate_cons_cons]
      rcases List.mem_cons.mp mem with rfl | later
      · exact fun c inside => List.mem_append_left _ (List.mem_append_left _ inside)
      · exact fun c inside => List.mem_append_right _ (ih later inside)

theorem arrowPieces_ne_nil (cs : List Char) : arrowPieces cs ≠ [] := by
  unfold arrowPieces
  split
  · simp
  · simp
  · split <;> simp

theorem intercalate_arrowPieces (cs : List Char) :
    ['-', '>'].intercalate (arrowPieces cs) = cs := by
  fun_induction arrowPieces cs with
  | case1 => rfl
  | case2 rest ih =>
    obtain ⟨piece, others, split⟩ := List.exists_cons_of_ne_nil (arrowPieces_ne_nil rest)
    rw [split] at ih ⊢
    simp [List.intercalate_cons_cons, ih]
  | case3 c rest here empty ih => exact absurd empty (arrowPieces_ne_nil rest)
  | case4 c rest here piece others split ih =>
    rw [split] at ih
    cases others with
    | nil => simp_all
    | cons next more => simp_all [List.intercalate_cons_cons]

theorem free_of_mem_arrowPieces {cs piece : List Char} (mem : piece ∈ arrowPieces cs) :
    ¬ ['-', '>'] <:+: piece := by
  fun_induction arrowPieces cs generalizing piece with
  | case1 => simp_all
  | case2 rest ih =>
    rcases List.mem_cons.mp mem with rfl | later
    · simp
    · exact ih later
  | case3 c rest here empty ih => exact absurd empty (arrowPieces_ne_nil rest)
  | case4 c rest here first others split ih =>
    rcases List.mem_cons.mp mem with rfl | later
    · intro inside
      rcases List.infix_cons_iff.mp inside with front | behind
      · -- The text would start with the arrow, and be cut there.
        obtain ⟨more, whole⟩ := front
        obtain ⟨rfl, rfl⟩ := List.cons.inj whole
        have joined := intercalate_arrowPieces rest
        rw [split] at joined
        cases others with
        | nil => exact here more rfl (by simpa using joined.symm)
        | cons next later =>
          exact here _ rfl (by simpa [List.intercalate_cons_cons] using joined.symm)
      · exact ih (split ▸ List.mem_cons_self) behind
    · exact ih (split ▸ List.mem_cons_of_mem _ later)

theorem arrowPieces_of_free {cs : List Char} (free : ¬ ['-', '>'] <:+: cs) :
    arrowPieces cs = [cs] := by
  fun_induction arrowPieces cs with
  | case1 => rfl
  | case2 rest ih => exact absurd ⟨[], rest, rfl⟩ free
  | case3 c rest here empty ih => exact absurd empty (arrowPieces_ne_nil rest)
  | case4 c rest here piece others split ih =>
    have later : ¬ ['-', '>'] <:+: rest := fun inside => free (List.infix_cons inside)
    rw [ih later] at split
    obtain ⟨rfl, rfl⟩ := List.cons.inj split
    rfl

theorem arrowPieces_append_arrow {before : List Char} (free : ¬ ['-', '>'] <:+: before)
    (after : List Char) :
    arrowPieces (before ++ '-' :: '>' :: after) = before :: arrowPieces after := by
  induction before with
  | nil => simp [arrowPieces]
  | cons c rest ih =>
    have later : ¬ ['-', '>'] <:+: rest := fun inside => free (List.infix_cons inside)
    rw [List.cons_append, arrowPieces, ih later]
    -- An arrow that starts with `c` would stand in `before`, or need the dash of the one behind it.
    rintro more rfl whole
    cases rest with
    | nil => simp at whole
    | cons d others =>
      obtain ⟨rfl, -⟩ := List.cons.inj whole
      exact free ⟨[], others, rfl⟩

/-- Parts without arrows are found again when they were joined with arrows. -/
theorem arrowPieces_intercalate {parts : List (List Char)} (present : parts ≠ [])
    (free : ∀ part ∈ parts, ¬ ['-', '>'] <:+: part) :
    arrowPieces (['-', '>'].intercalate parts) = parts := by
  induction parts with
  | nil => exact absurd rfl present
  | cons part others ih =>
    have first := free part List.mem_cons_self
    cases others with
    | nil => simpa using arrowPieces_of_free first
    | cons next more =>
      have rest := ih (by simp) fun later mem => free later (List.mem_cons_of_mem _ mem)
      rw [List.intercalate_cons_cons, List.append_assoc]
      exact (arrowPieces_append_arrow first _).trans (congrArg _ rest)

theorem arrowPieces_append (before after : List Char) :
    arrowPieces (before ++ '-' :: '>' :: after) = arrowPieces before ++ arrowPieces after := by
  have present := arrowPieces_ne_nil before
  have whole : ['-', '>'].intercalate (arrowPieces before ++ arrowPieces after) =
      before ++ '-' :: '>' :: after := by
    rw [intercalate_append _ present (arrowPieces_ne_nil after), intercalate_arrowPieces,
      intercalate_arrowPieces]
    simp
  rw [← whole]
  apply arrowPieces_intercalate (List.append_ne_nil_of_left_ne_nil present _)
  intro part mem
  rcases List.mem_append.mp mem with inside | inside <;> exact free_of_mem_arrowPieces inside

/-- A character that is none of the arrow's keeps two texts without arrows from making one. -/
theorem arrow_free_append_cons {c : Char} (tail : c ≠ '-') (head : c ≠ '>')
    {before after : List Char} (free : ¬ ['-', '>'] <:+: before)
    (freeAfter : ¬ ['-', '>'] <:+: after) : ¬ ['-', '>'] <:+: before ++ c :: after := by
  induction before with
  | nil =>
    intro inside
    rcases List.infix_cons_iff.mp inside with ⟨more, whole⟩ | behind
    · exact tail (List.cons.inj whole).1.symm
    · exact freeAfter behind
  | cons b rest ih =>
    intro inside
    rcases List.infix_cons_iff.mp inside with ⟨more, whole⟩ | behind
    · obtain ⟨rfl, behind⟩ := List.cons.inj whole
      cases rest with
      | nil => exact head (List.cons.inj behind).1.symm
      | cons d others =>
        obtain ⟨rfl, -⟩ := List.cons.inj behind
        exact free ⟨[], others, rfl⟩
    · exact ih (fun inside => free (List.infix_cons inside)) behind

/-- Whether a part stands somewhere in a text. -/
def occurs (part : List Char) : List Char → Bool
  | [] => part.isEmpty
  | c :: rest => part.isPrefixOf (c :: rest) || occurs part rest

end ContainerFixture.Text
