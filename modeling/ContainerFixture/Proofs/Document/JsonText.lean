import ContainerFixture.Document.Json
import ContainerFixture.Proofs.Document.Sorting
import Mathlib.Data.List.TakeDrop

/-!
# JSON texts are read back

Main results: `Json.read?_compact` and `Json.read?_pretty`. A value without dates whose numbers are
whole and fit a word (`Json.Plain`) is read from either of its texts, with the entries of its tables
sorted by key.

The reader goes from left to right and gives what it read with what is left. `Json.Reads` says that
it does so for a text wherever the text stands: after any blanks, and before anything that does not
go on with a number. The proof is by induction on the value; brackets and commas are put around the
texts of its items by `enclosed`, which is the same for both forms but for the blanks.
-/

namespace ContainerFixture.Document.Json

open Text Number

/-! ### Strings -/

variable {rest more after : List Char}

theorem stringBody_escaped {e c : Char} (plain : escaped? e = some c)
    (read : stringBody rest = some (more, after)) :
    stringBody ('\\' :: e :: rest) = some (c :: more, after) := by
  have notPoint : e ≠ 'u' := by
    rintro rfl
    cases plain
  rw [stringBody.eq_4 _ _ (fun _ _ _ _ _ _ _ _ _ same => absurd same notPoint)
    (fun _ _ _ _ _ same => absurd same notPoint)]
  simp [plain, read]

theorem hex4_of_stringBody {a b c d : Char}
    (read : stringBody ('\\' :: 'u' :: a :: b :: c :: d :: rest) = some (more, after)) :
    ∃ point, hex4 a b c d = some point := by
  cases written : hex4 a b c d with
  | some point => exact ⟨point, rfl⟩
  | none =>
    -- the four digits are looked at first, whether or not another escape follows
    by_cases another : ∃ e f g h rest', rest = '\\' :: 'u' :: e :: f :: g :: h :: rest'
    · obtain ⟨e, f, g, h, rest', rfl⟩ := another
      simp [stringBody.eq_2, written] at read
    · rw [stringBody.eq_3 _ _ _ _ _ fun e f g h rest' same =>
        another ⟨e, f, g, h, rest', same⟩] at read
      simp [written] at read

theorem stringBody_point {a b c d : Char} {point : Nat} (written : hex4 a b c d = some point)
    (notLeading : isLeading point = false) (notTrailing : isTrailing point = false)
    (read : stringBody rest = some (more, after)) :
    stringBody ('\\' :: 'u' :: a :: b :: c :: d :: rest) =
      some (Char.ofNat point :: more, after) := by
  by_cases another : ∃ e f g h rest', rest = '\\' :: 'u' :: e :: f :: g :: h :: rest'
  · obtain ⟨e, f, g, h, rest', rfl⟩ := another
    obtain ⟨second, next⟩ := hex4_of_stringBody read
    rw [stringBody.eq_2, read]
    simp [written, next, notLeading, notTrailing]
  · rw [stringBody.eq_3 _ _ _ _ _ fun e f g h rest' same => another ⟨e, f, g, h, rest', same⟩]
    simp [written, notLeading, notTrailing, read]

theorem writtenControl {n : Nat} (control : n < 0x20) :
    ("\\u00" ++ (if n < 0x10 then "0" else "") ++ hex n).toList =
        ['\\', 'u', '0', '0', Nat.digitChar (n / 16), Nat.digitChar (n % 16)] ∧
      hex4 '0' '0' (Nat.digitChar (n / 16)) (Nat.digitChar (n % 16)) = some n := by
  revert n
  decide

theorem stringBody_writtenChar (c : Char) (read : stringBody rest = some (more, after)) :
    stringBody ((writtenChar c).toList ++ rest) = some (c :: more, after) := by
  unfold writtenChar
  split
  iterate 7 exact stringBody_escaped rfl read
  split
  · next control =>
    obtain ⟨written, point⟩ := writtenControl control
    rw [written]
    have notLeading : isLeading c.toNat = false := by
      simp only [isLeading, Bool.and_eq_false_iff, decide_eq_false_iff_not]
      omega
    have notTrailing : isTrailing c.toNat = false := by
      simp only [isTrailing, Bool.and_eq_false_iff, decide_eq_false_iff_not]
      omega
    have read := stringBody_point point notLeading notTrailing read
    rwa [Char.ofNat_toNat] at read
  · next quote backslash _ _ _ _ _ visible =>
    rw [Char.toString, String.toList_singleton, List.singleton_append, stringBody.eq_5 _ _ quote
      (fun _ _ _ _ _ _ _ _ _ same => absurd same backslash)
      (fun _ _ _ _ _ same => absurd same backslash) (fun _ _ same => absurd same backslash)]
    have notBackslash : c ≠ '\\' := backslash
    simp [read, visible, notBackslash]

/-- A text as it stands inside the quotes is read up to the closing quote. -/
theorem stringBody_written (cs rest : List Char) :
    stringBody (cs.flatMap (fun c => (writtenChar c).toList) ++ '"' :: rest) = some (cs, rest) := by
  induction cs with
  | nil => rw [List.flatMap_nil, List.nil_append, stringBody.eq_1]
  | cons c more ih =>
    rw [List.flatMap_cons, List.append_assoc]
    exact stringBody_writtenChar c ih

theorem toList_writtenText (s : String) : (writtenText s).toList =
    '"' :: (s.toList.flatMap (fun c => (writtenChar c).toList) ++ ['"']) := by
  simp [writtenText, List.flatMap_map]

/-! ### Blanks -/

/-- Characters that all separate tokens. -/
def Blank (cs : List Char) : Prop := ∀ c ∈ cs, c = ' ' ∨ c = '\n' ∨ c = '\r' ∨ c = '\t'

theorem blank_nil : Blank [] := List.forall_mem_nil _

theorem skipBlank_append {front : List Char} (blank : Blank front) (cs : List Char) :
    skipBlank (front ++ cs) = skipBlank cs := by
  induction front with
  | nil => rfl
  | cons c rest ih =>
    obtain ⟨here, later⟩ := List.forall_mem_cons.mp blank
    rw [List.cons_append, skipBlank, List.dropWhile_cons_of_pos (by simpa [or_assoc] using here)]
    exact ih later

theorem skipBlank_cons {c : Char} (dark : ¬Blank [c]) (cs : List Char) :
    skipBlank (c :: cs) = c :: cs := by
  rw [skipBlank, List.dropWhile_cons_of_neg]
  simpa [Blank, or_assoc] using dark

/-! ### Numbers -/

/-- What may follow a value: nothing that would be read as more of a number. -/
def Ends (rest : List Char) : Prop :=
  ∀ c ∈ rest.head?, c.isDigit = false ∧ c ≠ '.' ∧ c ≠ 'e' ∧ c ≠ 'E'

theorem span_digits {digits rest : List Char} (all : ∀ c ∈ digits, c.isDigit = true)
    (ends : Ends rest) : (digits ++ rest).span Char.isDigit = (digits, rest) := by
  rw [List.span_eq_takeWhile_dropWhile, List.takeWhile_append_of_pos all,
    List.dropWhile_append_of_pos all]
  cases rest with
  | nil => rw [List.takeWhile_nil, List.dropWhile_nil, List.append_nil]
  | cons c more =>
    have notDigit : ¬c.isDigit = true := by simp [(ends c rfl).1]
    rw [List.takeWhile_cons_of_neg notDigit, List.dropWhile_cons_of_neg notDigit, List.append_nil]

theorem exponentPart_of_ends {rest : List Char} (ends : Ends rest) :
    exponentPart rest = some (none, rest) := by
  cases rest with
  | nil => rfl
  | cons c more =>
    obtain ⟨-, -, notLower, notUpper⟩ := ends c rfl
    simp [exponentPart, notLower, notUpper]

/-- A numeral has no leading zero. -/
theorem head?_toDigits {n : Nat} (pos : 0 < n) : (Nat.toDigits 10 n).head? ≠ some '0' := by
  induction n using Nat.strongRecOn with
  | _ n ih =>
    by_cases small : n < 10
    · rw [Nat.toDigits_of_lt_base small]
      clear ih
      revert pos
      revert small n
      decide
    · rw [Nat.toDigits_of_base_le (by decide) (Nat.le_of_not_lt small),
        List.head?_append_of_ne_nil _ Nat.toDigits_ne_nil]
      exact ih (n / 10) (by omega) (by omega)

theorem length_repr_of_leading_zero {n : Nat} (leading : n.repr.toList.head? = some '0') :
    n.repr.toList.length = 1 := by
  rw [Nat.toList_repr] at *
  by_cases zero : n = 0
  · rw [zero, Nat.toDigits_zero, List.length_singleton]
  · exact absurd leading (head?_toDigits (Nat.pos_of_ne_zero zero))

theorem digitsValue_cons (acc : Nat) (c : Char) (rest : List Char) :
    digitsValue acc (c :: rest) = digitsValue (acc * 10 + digitValue c) rest := by
  rw [digitsValue, digitsValue, List.foldl_cons]

theorem le_digitsValue (acc : Nat) (digits : List Char) : acc ≤ digitsValue acc digits := by
  induction digits generalizing acc with
  | nil => exact Nat.le_refl acc
  | cons c rest ih =>
    calc
      acc ≤ acc * 10 + digitValue c := by omega
      _ ≤ digitsValue acc (c :: rest) := digitsValue_cons acc c rest ▸ ih _

theorem addWhole_cons {n : Scaled} {c : Char} {significand : Nat}
    (extended : n.extended? c = some significand) (rest : List Char) :
    n.addWhole (c :: rest) = Scaled.addWhole { n with significand } rest := by
  -- unfolded by hand: the comparison with the greatest word must not be evaluated
  delta Scaled.addWhole
  dsimp only [List.brecOn.eq_1]
  delta Scaled.addWhole._f
  dsimp only
  rw [extended]

theorem addWhole_eq {acc : Nat} {digits : List Char}
    (small : digitsValue acc digits < UInt64.size) :
    Scaled.addWhole ⟨acc, 0⟩ digits = ⟨digitsValue acc digits, 0⟩ := by
  induction digits generalizing acc with
  | nil => rfl
  | cons c rest ih =>
    rw [digitsValue_cons] at small ⊢
    have bound := le_digitsValue (acc * 10 + digitValue c) rest
    have fits : acc * 10 + digitValue c < UInt64.size := Nat.lt_of_le_of_lt bound small
    have extended : Scaled.extended? ⟨acc, 0⟩ c = some (acc * 10 + digitValue c) := by
      rw [Scaled.extended?]
      exact if_pos fits
    rw [addWhole_cons extended, ih small]

theorem addWhole_repr {n : Nat} (small : n < UInt64.size) :
    Scaled.addWhole {} n.repr.toList = ⟨n, 0⟩ := by
  have value : digitsValue 0 n.repr.toList = n := by
    rw [digitsValue_eq_ofDigitChars, Nat.toList_repr, Nat.ofDigitChars_ten_toDigits]
  have whole := addWhole_eq (value.symm ▸ small : digitsValue 0 n.repr.toList < UInt64.size)
  rwa [value] at whole

theorem number_repr (negative : Bool) (n : Nat) {rest : List Char} (ends : Ends rest) :
    number negative (n.repr.toList ++ rest) =
      (numberValue? negative n.repr.toList [] none).map fun v => (v, rest) := by
  have whole : (n.repr.toList ++ rest).span Char.isDigit = (n.repr.toList, rest) :=
    span_digits (fun _ => isDigit_of_mem_repr) ends
  have plain : ¬(n.repr.toList.isEmpty ||
      (n.repr.toList.head? = some '0' && n.repr.toList.length ≠ 1)) = true := by
    simp only [Bool.or_eq_true, Bool.and_eq_true, decide_eq_true_eq, List.isEmpty_iff]
    rintro (empty | ⟨leading, longer⟩)
    · exact repr_ne_nil n empty
    · exact longer (length_repr_of_leading_zero leading)
  -- decides the match on what follows the digits
  have noFraction : ∀ more, rest ≠ '.' :: more := fun more same =>
    (ends '.' (by rw [same]; rfl)).2.1 rfl
  simp only [number, whole]
  rw [if_neg plain]
  simp only [Option.bind_eq_bind, Option.bind_some, exponentPart_of_ends ends]
  cases numberValue? negative n.repr.toList [] none <;> rfl

theorem number_natural {n : Nat} (small : n < UInt64.size) {rest : List Char} (ends : Ends rest) :
    number false (n.repr.toList ++ rest) = some (.integer n, rest) := by
  rw [number_repr false n ends]
  simp only [numberValue?, addWhole_repr small]
  rfl

theorem number_negative {n : Nat} (pos : 0 < n) (small : n ≤ UInt64.size / 2) {rest : List Char}
    (ends : Ends rest) :
    number true (n.repr.toList ++ rest) = some (.integer (-n), rest) := by
  have bounded : n < UInt64.size := Nat.lt_of_le_of_lt small (by decide)
  rw [number_repr true n ends]
  simp only [numberValue?, addWhole_repr bounded]
  simp [small, Nat.ne_of_gt pos]

/-! ### Items and entries -/

/-- A reader gives `a` for a text, wherever the text stands. -/
structure Reads {α : Type} (item : List Char → Option (α × List Char)) (text : List Char) (a : α) :
    Prop where
  starts : ∃ c more, text = c :: more ∧ ¬Blank [c] ∧ c ≠ ']' ∧ c ≠ '\x7d'
  read : ∀ {front rest : List Char}, Blank front → Ends rest →
    item (front ++ (text ++ rest)) = some (a, rest)

theorem reads_map {α β : Type} {item : List Char → Option (α × List Char)} {text : β → List Char}
    {result : β → α} {members : List β}
    (reads : ∀ b ∈ members, Reads item (text b) (result b)) :
    List.Forall₂ (Reads item) (members.map text) (members.map result) := by
  rw [List.forall₂_map_left_iff, List.forall₂_map_right_iff, List.forall₂_same]
  exact reads

/-- What stands between brackets: texts with commas between them, each after the blanks `gap`, and
more blanks behind the last. -/
def enclosed (gap back : List Char) (texts : List (List Char)) : List Char :=
  if texts = [] then [] else gap ++ (',' :: gap).intercalate texts ++ back

section

variable {α : Type} {item : List Char → Option (α × List Char)} {close : Char}
  (closing : close = ']' ∨ close = '\x7d') {gap back : List Char} (blankGap : Blank gap)
  (blankBack : Blank back)
include closing blankBack

theorem ends_back (rest : List Char) : Ends (back ++ close :: rest) := by
  intro c first
  cases back with
  | nil =>
    cases first
    rcases closing with rfl | rfl <;> decide
  | cons b more =>
    cases first
    rcases blankBack c List.mem_cons_self with rfl | rfl | rfl | rfl <;> decide

theorem skipBlank_back (rest : List Char) : skipBlank (back ++ close :: rest) = close :: rest := by
  rw [skipBlank_append blankBack, skipBlank_cons]
  rcases closing with rfl | rfl <;> simp [Blank]

include blankGap

theorem items_intercalate {texts : List (List Char)} {results : List α}
    (reads : List.Forall₂ (Reads item) texts results) (given : texts ≠ []) {front : List Char}
    (blank : Blank front) (rest : List Char) :
    items item close (front ++ ((',' :: gap).intercalate texts ++ (back ++ close :: rest))) =
      some (results, rest) := by
  -- only the first text has `front` before it; behind a comma it is `gap`
  induction reads generalizing front with
  | nil => exact absurd rfl given
  | @cons text result others _ read reads ih =>
    cases reads with
    | nil =>
      rw [List.intercalate_singleton, items,
        read.read blank (ends_back closing blankBack rest)]
      simp [skipBlank_back closing blankBack]
    | cons next reads =>
      have comma : ',' ≠ close := by rcases closing with rfl | rfl <;> decide
      have ends (tail : List Char) : Ends (',' :: tail) := fun c first => by cases first; decide
      rw [List.intercalate_cons_cons]
      simp only [List.append_assoc, List.cons_append]
      rw [items, read.read blank (ends _)]
      simp only [skipBlank_cons (show ¬Blank [','] by simp [Blank])]
      rw [if_neg comma, if_pos ⟨trivial, by simp; omega⟩, ih (List.cons_ne_nil _ _) blankGap,
        Option.map_some]

theorem itemsOrNone_enclosed {texts : List (List Char)} {results : List α}
    (reads : List.Forall₂ (Reads item) texts results) (rest : List Char) :
    itemsOrNone item close (enclosed gap back texts ++ close :: rest) = some (results, rest) := by
  cases reads with
  | nil =>
    have first : skipBlank (close :: rest) = close :: rest :=
      skipBlank_back closing blank_nil rest
    simp [itemsOrNone, enclosed, first]
  | @cons text result texts results read reads =>
    obtain ⟨c, more, rfl, dark, notClose⟩ := read.starts
    have other : c ≠ close := by rcases closing with rfl | rfl <;> simp [notClose]
    have all := items_intercalate closing blankGap blankBack (.cons read reads)
      (List.cons_ne_nil _ _) blank_nil rest
    obtain ⟨tail, start⟩ : ∃ tail, (',' :: gap).intercalate ((c :: more) :: texts) = c :: tail := by
      cases texts with
      | nil => exact ⟨more, List.intercalate_singleton⟩
      | cons next texts => exact ⟨_, List.intercalate_cons_cons⟩
    rw [start] at all
    rw [itemsOrNone, enclosed, if_neg (List.cons_ne_nil _ _), start]
    simp only [List.append_assoc, List.cons_append, List.nil_append] at all ⊢
    rw [skipBlank_append blankGap, skipBlank_cons dark]
    simp only [if_neg other]
    exact all

end

/-- An entry is read when its value is, whatever blanks stand between the colon and the value. -/
theorem Reads.entry {item : List Char → Option (Value × List Char)} {text : List Char} {v : Value}
    (reads : Reads item text v) (key : String) {gap : List Char} (blankGap : Blank gap) :
    Reads (entry item) ((writtenText key).toList ++ ':' :: (gap ++ text)) (key, v) where
  starts := ⟨'"', _, by rw [toList_writtenText, List.cons_append], by simp [Blank], by decide,
    by decide⟩
  read := by
    intro front rest blank ends
    rw [Json.entry, toList_writtenText]
    simp only [List.append_assoc, List.cons_append, List.nil_append]
    rw [skipBlank_append blank, skipBlank_cons (by simp [Blank])]
    simp only [stringBody_written, Option.bind_eq_bind, Option.bind_some]
    rw [skipBlank_cons (by simp [Blank])]
    simp [reads.read blankGap ends]

/-! ### Values -/

/-- A value that JSON holds without loss: no dates, and numbers that are whole and fit a word. No
more than `depth` brackets are open at a time. -/
inductive Plain : Nat → Value → Prop
  | null (depth : Nat) : Plain (depth + 1) .null
  | flag (depth : Nat) (b : Bool) : Plain (depth + 1) (.flag b)
  | integer (depth : Nat) {n : Int} (low : -n ≤ (UInt64.size / 2 : Nat)) (high : n < UInt64.size) :
    Plain (depth + 1) (.integer n)
  | text (depth : Nat) (s : String) : Plain (depth + 1) (.text s)
  | list {depth : Nat} {items : List Value} (all : ∀ v ∈ items, Plain depth v) :
    Plain (depth + 1) (.list items)
  | table {depth : Nat} {entries : Entries} (all : ∀ entry ∈ entries, Plain depth entry.2) :
    Plain (depth + 1) (.table entries)

theorem value_append {front cs : List Char} (blank : Blank front) (depth : Nat) :
    value (depth + 1) (front ++ cs) = value (depth + 1) cs := by
  rw [value, value, skipBlank_append blank]

theorem reads_text (depth : Nat) (s : String) :
    Reads (value (depth + 1)) (writtenLeaf (.text s)).toList (.text s) where
  starts := ⟨'"', _, by rw [writtenLeaf, toList_writtenText], by simp [Blank], by decide,
    by decide⟩
  read := by
    intro front rest blank _
    rw [value_append blank, writtenLeaf, toList_writtenText, value]
    simp only [List.cons_append, List.append_assoc, List.nil_append]
    rw [skipBlank_cons (by simp [Blank])]
    simp [stringBody_written]

theorem value_digit {c : Char} (digit : c.isDigit = true) (depth : Nat) (cs : List Char) :
    value (depth + 1) (c :: cs) = number false (c :: cs) := by
  rw [value, skipBlank_cons]
  · split <;> simp_all
  · simp only [Blank, List.mem_singleton, forall_eq]
    rintro (rfl | rfl | rfl | rfl) <;> cases digit

theorem repr_eq_cons (n : Nat) : ∃ c more, n.repr.toList = c :: more ∧ c.isDigit = true := by
  cases digits : n.repr.toList with
  | nil => exact absurd digits (repr_ne_nil n)
  | cons c more =>
    exact ⟨c, more, rfl, isDigit_of_mem_repr (n := n) (digits ▸ List.mem_cons_self)⟩

theorem reads_natural (depth : Nat) {n : Nat} (small : n < UInt64.size) :
    Reads (value (depth + 1)) n.repr.toList (.integer n) := by
  obtain ⟨c, more, digits, digit⟩ := repr_eq_cons n
  refine ⟨⟨c, more, digits, ?_, ?_, ?_⟩, fun {front rest} blank ends => ?_⟩
  · simp only [Blank, List.mem_singleton, forall_eq]
    rintro (rfl | rfl | rfl | rfl) <;> cases digit
  · rintro rfl
    cases digit
  · rintro rfl
    cases digit
  · have read := number_natural small ends
    rw [digits, List.cons_append] at read
    rw [value_append blank, digits, List.cons_append, value_digit digit, read]

theorem reads_negative (depth : Nat) {n : Nat} (pos : 0 < n) (small : n ≤ UInt64.size / 2) :
    Reads (value (depth + 1)) ('-' :: n.repr.toList) (.integer (-n)) where
  starts := ⟨'-', _, rfl, by simp [Blank], by decide, by decide⟩
  read := by
    intro front rest blank ends
    rw [value_append blank, List.cons_append, value, skipBlank_cons (by simp [Blank])]
    exact number_negative pos small ends

theorem reads_integer (depth : Nat) {n : Int} (low : -n ≤ (UInt64.size / 2 : Nat))
    (high : n < UInt64.size) :
    Reads (value (depth + 1)) (writtenLeaf (.integer n)).toList (.integer n) := by
  cases n with
  | ofNat n => exact reads_natural depth (Int.ofNat_lt.mp high)
  | negSucc n =>
    have written : (writtenLeaf (.integer (Int.negSucc n))).toList =
        '-' :: (n + 1).repr.toList := by
      rw [writtenLeaf, Int.toString_eq_repr, Int.repr]
      simp
    rw [written]
    exact reads_negative depth (Nat.succ_pos n) (Int.ofNat_le.mp low)

theorem reads_null (depth : Nat) : Reads (value (depth + 1)) (writtenLeaf .null).toList .null where
  starts := ⟨'n', ['u', 'l', 'l'], rfl, by simp [Blank], by decide, by decide⟩
  read := by
    intro front rest blank _
    rw [value_append blank]
    rfl

theorem reads_flag (depth : Nat) (b : Bool) :
    Reads (value (depth + 1)) (writtenLeaf (.flag b)).toList (.flag b) := by
  cases b with
  | true =>
    refine ⟨⟨'t', ['r', 'u', 'e'], rfl, by simp [Blank], by decide, by decide⟩, fun blank _ => ?_⟩
    rw [value_append blank]
    rfl
  | false =>
    refine ⟨⟨'f', ['a', 'l', 's', 'e'], rfl, by simp [Blank], by decide, by decide⟩,
      fun blank _ => ?_⟩
    rw [value_append blank]
    rfl

theorem reads_list {depth : Nat} {gap back : List Char} (blankGap : Blank gap)
    (blankBack : Blank back) {texts : List (List Char)} {items : List Value}
    (reads : List.Forall₂ (Reads (value depth)) texts items) :
    Reads (value (depth + 1)) ('[' :: (enclosed gap back texts ++ [']'])) (.list items) where
  starts := ⟨'[', _, rfl, by simp [Blank], by decide, by decide⟩
  read := by
    intro front rest blank _
    have all := itemsOrNone_enclosed (Or.inl rfl) blankGap blankBack reads rest
    rw [value_append blank, List.cons_append, List.append_assoc, List.singleton_append, value,
      skipBlank_cons (by simp [Blank])]
    simp only [all, Option.map_some]

theorem reads_table {depth : Nat} {gap back : List Char} (blankGap : Blank gap)
    (blankBack : Blank back) {texts : List (List Char)} {entries : Entries}
    (reads : List.Forall₂ (Reads (entry (value depth))) texts entries) :
    Reads (value (depth + 1)) ('\x7b' :: (enclosed gap back texts ++ ['\x7d']))
      (.table (sortEntries entries)) where
  starts := ⟨'\x7b', _, rfl, by simp [Blank], by decide, by decide⟩
  read := by
    intro front rest blank _
    have all := itemsOrNone_enclosed (Or.inr rfl) blankGap blankBack reads rest
    rw [value_append blank, List.cons_append, List.append_assoc, List.singleton_append, value,
      skipBlank_cons (by simp [Blank])]
    simp only [all, Option.map_some]

/-! ### Texts on one line -/

theorem compactItems_eq (items : List Value) : compactItems items = items.map compact := by
  induction items with
  | nil => rfl
  | cons v rest ih => rw [compactItems, ih, List.map_cons]

theorem compactEntries_eq (entries : Entries) : compactEntries entries =
    entries.map fun entry => writtenText entry.1 ++ ":" ++ compact entry.2 := by
  induction entries with
  | nil => rfl
  | cons entry rest ih => rw [compactEntries, ih, List.map_cons]

theorem enclosed_nil (texts : List (List Char)) :
    enclosed [] [] texts = [','].intercalate texts := by
  cases texts with
  | nil => rfl
  | cons => simp [enclosed]

theorem reads_compact {depth : Nat} {v : Value} (plain : Plain depth v) :
    Reads (value depth) (compact v).toList v.sorted := by
  -- on the value, with one level of depth spent on each pair of brackets
  induction plain with
  | null depth => exact reads_null depth
  | flag depth b => exact reads_flag depth b
  | integer depth low high => exact reads_integer depth low high
  | text depth s => exact reads_text depth s
  | @list depth items _ ih =>
    have members : List.Forall₂ (Reads (value depth)) ((compactItems items).map String.toList)
        (Value.sortedItems items) := by
      rw [compactItems_eq, sortedItems_eq, List.map_map]
      exact reads_map ih
    have whole := reads_list blank_nil blank_nil members
    rw [enclosed_nil] at whole
    simpa [compact, Value.sorted] using whole
  | @table depth entries _ ih =>
    have members : List.Forall₂ (Reads (entry (value depth)))
        ((compactEntries entries).map String.toList) (Value.sortedEntries entries) := by
      rw [compactEntries_eq, sortedEntries_eq, List.map_map]
      apply reads_map
      intro entry mem
      simpa using (ih entry mem).entry entry.1 blank_nil
    have whole := reads_table blank_nil blank_nil members
    rw [enclosed_nil] at whole
    simpa [compact, Value.sorted] using whole

/-! ### Texts on several lines -/

theorem prettyItems_eq (level : Nat) (items : List Value) :
    prettyItems level items = items.map (prettyAt level) := by
  induction items with
  | nil => rfl
  | cons v rest ih => rw [prettyItems, ih, List.map_cons]

theorem prettyEntries_eq (level : Nat) (entries : Entries) : prettyEntries level entries =
    entries.map fun entry => writtenText entry.1 ++ ": " ++ prettyAt level entry.2 := by
  induction entries with
  | nil => rfl
  | cons entry rest ih => rw [prettyEntries, ih, List.map_cons]

theorem blank_lineBreak (level : Nat) : Blank (lineBreak level).toList := by
  intro c mem
  rw [lineBreak, String.toList_append, List.mem_append] at mem
  rcases mem with feed | indent
  · exact Or.inr (Or.inl (List.mem_singleton.mp feed))
  · rw [String.toList_ofList] at indent
    exact Or.inl (List.eq_of_mem_replicate indent)

theorem toList_bracketed (opening closing : String) (level : Nat) (members : List String) :
    (bracketed opening closing level members).toList = opening.toList ++
      (enclosed (lineBreak (level + 1)).toList (lineBreak level).toList
        (members.map String.toList) ++ closing.toList) := by
  cases members with
  | nil => simp [bracketed, enclosed]
  | cons => simp [bracketed, enclosed]

theorem reads_pretty {depth : Nat} {v : Value} (plain : Plain depth v) (level : Nat) :
    Reads (value depth) (prettyAt level v).toList v.sorted := by
  -- what is inside brackets stands one level deeper, so the level varies
  induction plain generalizing level with
  | null depth => exact reads_null depth
  | flag depth b => exact reads_flag depth b
  | integer depth low high => exact reads_integer depth low high
  | text depth s => exact reads_text depth s
  | @list depth items _ ih =>
    have members : List.Forall₂ (Reads (value depth))
        ((prettyItems (level + 1) items).map String.toList) (Value.sortedItems items) := by
      rw [prettyItems_eq, sortedItems_eq, List.map_map]
      exact reads_map fun v mem => ih v mem (level + 1)
    have whole := reads_list (blank_lineBreak (level + 1)) (blank_lineBreak level) members
    rw [prettyAt, toList_bracketed, Value.sorted]
    exact whole
  | @table depth entries _ ih =>
    have members : List.Forall₂ (Reads (entry (value depth)))
        ((prettyEntries (level + 1) entries).map String.toList) (Value.sortedEntries entries) := by
      rw [prettyEntries_eq, sortedEntries_eq, List.map_map]
      apply reads_map
      intro entry mem
      have space : Blank [' '] := by simp [Blank]
      simpa using (ih entry mem (level + 1)).entry entry.1 space
    have whole := reads_table (blank_lineBreak (level + 1)) (blank_lineBreak level) members
    rw [prettyAt, toList_bracketed, Value.sorted]
    exact whole

/-! ### Documents -/

theorem Reads.read? {s : String} {v : Value} (reads : Reads (value maxDepth) s.toList v) :
    read? s = some v := by
  have ends : Ends [] := fun c first => by cases first
  have read := reads.read blank_nil ends
  rw [List.nil_append, List.append_nil] at read
  rw [Json.read?, read]
  rfl

/-- The text of a value on one line is read as the value, with its entries sorted by key. -/
theorem read?_compact {v : Value} (plain : Plain maxDepth v) : read? (compact v) = some v.sorted :=
  (reads_compact plain).read?

/-- The text of a value over several lines is read as the value, with its entries sorted by key. -/
theorem read?_pretty {v : Value} (plain : Plain maxDepth v) : read? (pretty v) = some v.sorted :=
  (reads_pretty plain 0).read?

end ContainerFixture.Document.Json
