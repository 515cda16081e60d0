/-!
# Blank characters

The characters of the Unicode property `White_Space`, and trimming by them. Every text of this
library that is read leniently (image references, port listings, container names, engine output)
is trimmed with `trimBlank`.
-/
namespace ContainerFixture.Text

/-- The ranges of the Unicode property `White_Space`, in ascending order, ends included. -/
def blankRanges : List (Nat × Nat) :=
  [(0x09, 0x0D), (0x20, 0x20), (0x85, 0x85), (0xA0, 0xA0), (0x1680, 0x1680), (0x2000, 0x200A),
    (0x2028, 0x2029), (0x202F, 0x202F), (0x205F, 0x205F), (0x3000, 0x3000)]

/-- Whether a character has the property `White_Space`. -/
def isBlank (c : Char) : Bool :=
  blankRanges.any fun range => range.1 ≤ c.toNat && c.toNat ≤ range.2

/-- The characters left after the blank ones at the start are dropped. -/
def trimStart (cs : List Char) : List Char := cs.dropWhile isBlank

/-- The characters left after the blank ones at the end are dropped. -/
def trimEnd (cs : List Char) : List Char := (cs.reverse.dropWhile isBlank).reverse

/-- The characters left after the blank ones at both ends are dropped. -/
def trimBlank (cs : List Char) : List Char := trimEnd (trimStart cs)

/-- `trimBlank` on strings. -/
def trim (s : String) : String := String.ofList (trimBlank s.toList)

/-- No blank character lies between the first and the last of the visible ASCII characters. -/
theorem isBlank_of_visible {c : Char} (low : 0x21 ≤ c.toNat) (high : c.toNat ≤ 0x7E) :
    isBlank c = false := by
  simp only [isBlank, blankRanges, List.any_cons, List.any_nil, Bool.or_eq_false_iff,
    Bool.and_eq_false_iff, decide_eq_false_iff_not, and_true]
  omega

/-- There is no blank character at either end of a text. -/
def Trimmed (cs : List Char) : Prop :=
  (∀ c ∈ cs.head?, isBlank c = false) ∧ ∀ c ∈ cs.getLast?, isBlank c = false

theorem trimStart_eq_self {cs : List Char} (clear : ∀ c ∈ cs.head?, isBlank c = false) :
    trimStart cs = cs := by
  cases cs with
  | nil => rfl
  | cons c rest => simp [trimStart, clear c rfl]

theorem trimEnd_eq_self {cs : List Char} (clear : ∀ c ∈ cs.getLast?, isBlank c = false) :
    trimEnd cs = cs := by
  have turned : trimStart cs.reverse = cs.reverse :=
    trimStart_eq_self fun c last => clear c (by simpa using last)
  rw [trimEnd, show cs.reverse.dropWhile isBlank = cs.reverse from turned, List.reverse_reverse]

theorem head?_trimStart (cs : List Char) : ∀ c ∈ (trimStart cs).head?, isBlank c = false := by
  intro c first
  have found := List.head?_dropWhile_not isBlank cs
  rw [trimStart] at first
  rw [Option.mem_def] at first
  rw [first] at found
  exact found

theorem trimEnd_isPrefix (cs : List Char) : trimEnd cs <+: cs := by
  have suffix : cs.reverse.dropWhile isBlank <:+ cs.reverse := List.dropWhile_suffix isBlank
  simpa [trimEnd] using List.reverse_prefix.mpr suffix

theorem Trimmed.trimBlank_eq {cs : List Char} (trimmed : Trimmed cs) : trimBlank cs = cs := by
  rw [trimBlank, trimStart_eq_self trimmed.1, trimEnd_eq_self trimmed.2]

theorem trimmed_of_filled {cs : List Char} (filled : ∀ c ∈ cs, isBlank c = false) : Trimmed cs :=
  ⟨fun c first => filled c (List.mem_of_head? first),
    fun c last => filled c (List.mem_of_getLast? last)⟩

theorem trimmed_trimBlank (cs : List Char) : Trimmed (trimBlank cs) := by
  constructor
  · intro c first
    obtain ⟨dropped, whole⟩ := trimEnd_isPrefix (trimStart cs)
    apply head?_trimStart cs
    rw [← whole]
    simp only [Option.mem_def] at first ⊢
    rw [trimBlank] at first
    simp [List.head?_append, first]
  · intro c last
    apply head?_trimStart (trimStart cs).reverse
    simpa [trimBlank, trimEnd, trimStart] using last

theorem trimBlank_append_left {lead : List Char} (blank : ∀ c ∈ lead, isBlank c = true)
    (cs : List Char) : trimBlank (lead ++ cs) = trimBlank cs := by
  rw [trimBlank, trimStart, List.dropWhile_append_of_pos blank]
  rfl

theorem trimBlank_isInfix (cs : List Char) : trimBlank cs <:+: cs :=
  (trimEnd_isPrefix _).isInfix.trans (List.dropWhile_suffix isBlank).isInfix

theorem trimEnd_append {trail : List Char} (blank : ∀ c ∈ trail, isBlank c = true)
    (cs : List Char) : trimEnd (cs ++ trail) = trimEnd cs := by
  have turned : ∀ c ∈ trail.reverse, isBlank c = true := fun c mem =>
    blank c (List.mem_reverse.mp mem)
  rw [trimEnd, List.reverse_append, List.dropWhile_append_of_pos turned]
  rfl

theorem trimBlank_append_right {trail : List Char} (blank : ∀ c ∈ trail, isBlank c = true)
    (cs : List Char) : trimBlank (cs ++ trail) = trimBlank cs := by
  simp only [trimBlank, trimStart, List.dropWhile_append]
  split
  · next empty =>
    -- Nothing but blanks stands in either.
    have dropped : (trail ++ []).dropWhile isBlank = [] := List.dropWhile_append_of_pos blank
    rw [List.append_nil] at dropped
    rw [dropped, List.isEmpty_iff.mp empty]
  · exact trimEnd_append blank _

theorem exists_blank_around (cs : List Char) : ∃ lead trail,
    (∀ c ∈ lead, isBlank c = true) ∧ (∀ c ∈ trail, isBlank c = true) ∧
      cs = lead ++ (trimBlank cs ++ trail) := by
  refine ⟨cs.takeWhile isBlank, ((trimStart cs).reverse.takeWhile isBlank).reverse, ?_, ?_, ?_⟩
  · exact List.all_eq_true.mp List.all_takeWhile
  · exact fun c mem => List.all_eq_true.mp List.all_takeWhile c (List.mem_reverse.mp mem)
  · have back := congrArg List.reverse
      (List.takeWhile_append_dropWhile (p := isBlank) (l := (trimStart cs).reverse))
    rw [List.reverse_append, List.reverse_reverse] at back
    rw [trimBlank, trimEnd, back, trimStart, List.takeWhile_append_dropWhile]

/-- A text that has no blanks at its ends, with blanks put around it. -/
def Padded (inner cs : List Char) : Prop :=
  Trimmed inner ∧ ∃ lead trail, (∀ c ∈ lead, isBlank c = true) ∧
    (∀ c ∈ trail, isBlank c = true) ∧ cs = lead ++ (inner ++ trail)

theorem padded_trimBlank (cs : List Char) : Padded (trimBlank cs) cs :=
  ⟨trimmed_trimBlank cs, exists_blank_around cs⟩

theorem Padded.trimBlank_eq {inner cs : List Char} (padded : Padded inner cs) :
    trimBlank cs = inner := by
  obtain ⟨trimmed, lead, trail, blank, blank', rfl⟩ := padded
  rw [trimBlank_append_left blank, trimBlank_append_right blank', trimmed.trimBlank_eq]

theorem trimBlank_eq_nil_iff {cs : List Char} :
    trimBlank cs = [] ↔ ∀ c ∈ cs, isBlank c = true := by
  constructor
  · intro empty
    obtain ⟨lead, trail, blank, blank', whole⟩ := exists_blank_around cs
    rw [empty, List.nil_append] at whole
    intro c mem
    rw [whole, List.mem_append] at mem
    exact mem.elim (blank c) (blank' c)
  · intro blank
    rw [← List.append_nil cs, trimBlank_append_left blank]
    rfl

end ContainerFixture.Text
