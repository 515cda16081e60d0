import ContainerFixture.Proofs.Document.Records
import Mathlib.Data.List.Basic

/-!
# Tables with their entries in another order

A table whose entries are sorted by key holds under each key what it held before, as long as no key
stands in it twice. A record is read from a table by its keys, so the order makes no difference to
it (`Rearranges.slots`).
-/

namespace ContainerFixture.Document

/-! ### Putting an entry in its place -/

theorem put_of_last {key : String} {v : Value} {entries : Entries}
    (last : ∀ entry ∈ entries, entry.1 < key) : put key v entries = entries ++ [(key, v)] := by
  induction entries with
  | nil => rfl
  | cons first rest ih =>
    obtain ⟨before, later⟩ := List.forall_mem_cons.mp last
    have notFirst : ¬key < first.1 := String.lt_asymm before
    have differs : key ≠ first.1 := (String.ne_of_lt before).symm
    rw [put, if_neg notFirst, if_neg differs, ih later, List.cons_append]

theorem lookup_put (key : String) (v : Value) (entries : Entries) (name : String) :
    (put key v entries).lookup name = if name = key then some v else entries.lookup name := by
  induction entries with
  | nil =>
    by_cases here : name = key
    · simp [put, here]
    · rw [if_neg here, put, List.lookup_cons, beq_eq_false_iff_ne.mpr here]
  | cons first rest ih =>
    obtain ⟨other, w⟩ := first
    rw [put]
    by_cases here : name = key
    · subst here
      rw [if_pos rfl]
      split
      · simp
      · split
        · simp
        · next differs =>
          rw [List.lookup_cons, beq_eq_false_iff_ne.mpr differs, ih, if_pos rfl]
    · have passed : (name == key) = false := beq_eq_false_iff_ne.mpr here
      rw [if_neg here]
      split
      · rw [List.lookup_cons, passed]
      · split
        · next same =>
          cases (show key = other from same)
          rw [List.lookup_cons, List.lookup_cons, passed]
        · rw [List.lookup_cons, List.lookup_cons, ih, if_neg here]

theorem mem_put {key : String} {v : Value} {entries : Entries} {entry : String × Value}
    (mem : entry ∈ put key v entries) : entry = (key, v) ∨ entry ∈ entries := by
  induction entries with
  | nil => simpa [put] using mem
  | cons first rest ih =>
    rw [put] at mem
    split at mem
    · simpa using mem
    · split at mem
      · rcases List.mem_cons.mp mem with here | later
        · exact Or.inl here
        · exact Or.inr (List.mem_cons_of_mem _ later)
      · rcases List.mem_cons.mp mem with here | later
        · exact Or.inr (here ▸ List.mem_cons_self)
        · exact (ih later).imp_right (List.mem_cons_of_mem _)

/-! ### Sorting entries -/

theorem foldl_put_of_sorted {entries before : Entries}
    (sorted : (before ++ entries).Pairwise fun a b => a.1 < b.1) :
    entries.foldl (fun table entry => put entry.1 entry.2 table) before = before ++ entries := by
  induction entries generalizing before with
  | nil => rw [List.foldl_nil, List.append_nil]
  | cons first rest ih =>
    have last : ∀ entry ∈ before, entry.1 < first.1 := fun entry mem =>
      (List.pairwise_append.mp sorted).2.2 entry mem first List.mem_cons_self
    rw [← List.singleton_append, ← List.append_assoc] at sorted
    rw [List.foldl_cons, put_of_last last, ih sorted, List.append_assoc, List.singleton_append]

theorem sortEntries_of_sorted {entries : Entries}
    (sorted : entries.Pairwise fun a b => a.1 < b.1) : sortEntries entries = entries :=
  foldl_put_of_sorted sorted

theorem mem_foldl_put {entries before : Entries} {entry : String × Value}
    (mem : entry ∈ entries.foldl (fun table entry => put entry.1 entry.2 table) before) :
    entry ∈ before ∨ entry ∈ entries := by
  induction entries generalizing before with
  | nil => exact Or.inl mem
  | cons first rest ih =>
    rcases ih mem with moved | later
    · rcases mem_put moved with rfl | old
      · exact Or.inr List.mem_cons_self
      · exact Or.inl old
    · exact Or.inr (List.mem_cons_of_mem _ later)

theorem mem_of_mem_sortEntries {entries : Entries} {entry : String × Value}
    (mem : entry ∈ sortEntries entries) : entry ∈ entries :=
  (mem_foldl_put mem).resolve_left List.not_mem_nil

theorem lookup_foldl_put {entries before : Entries} (distinct : (entries.map Prod.fst).Nodup)
    (name : String) :
    (entries.foldl (fun table entry => put entry.1 entry.2 table) before).lookup name =
      (entries.lookup name).or (before.lookup name) := by
  induction entries generalizing before with
  | nil => rfl
  | cons first rest ih =>
    obtain ⟨key, v⟩ := first
    obtain ⟨once, distinct⟩ := List.nodup_cons.mp distinct
    rw [List.foldl_cons, ih distinct, lookup_put, List.lookup_cons]
    by_cases here : name = key
    · -- the rest does not have the key again
      subst here
      have absent : rest.lookup name = none := by
        rw [List.lookup_eq_none_iff]
        intro entry mem
        exact bne_iff_ne.mpr fun same => once (List.mem_map.mpr ⟨entry, mem, same.symm⟩)
      rw [absent, if_pos rfl, beq_self_eq_true]
      rfl
    · rw [if_neg here, beq_eq_false_iff_ne.mpr here]

theorem lookup_sortEntries {entries : Entries} (distinct : (entries.map Prod.fst).Nodup)
    (name : String) : (sortEntries entries).lookup name = entries.lookup name := by
  rw [sortEntries, lookup_foldl_put distinct, List.lookup_nil, Option.or_none]

/-! ### Values that differ in the order of entries -/

/-- A function that at most puts the entries of tables in another order. -/
structure Rearranges (f : Value → Value) : Prop where
  null : f .null = .null
  flag : ∀ b, f (.flag b) = .flag b
  integer : ∀ n, f (.integer n) = .integer n
  text : ∀ s, f (.text s) = .text s
  list : ∀ items, f (.list items) = .list (items.map f)
  table : ∀ entries : Entries, (entries.map Prod.fst).Nodup → ∃ arranged,
    f (.table entries) = .table arranged ∧
      (∀ name, arranged.lookup name = (entries.lookup name).map f) ∧
      ∀ entry ∈ arranged, ∃ v, (entry.1, v) ∈ entries ∧ entry.2 = f v
  sorted : ∀ entries : Entries, (entries.Pairwise fun a b => a.1 < b.1) →
    f (.table entries) = .table (entries.map fun entry => (entry.1, f entry.2))

theorem rearranges_id : Rearranges id where
  null := rfl
  flag _ := rfl
  integer _ := rfl
  text _ := rfl
  list items := by rw [List.map_id, id]
  table entries _ := by
    refine ⟨entries, rfl, fun name => ?_, fun entry mem => ⟨entry.2, mem, rfl⟩⟩
    rw [Option.map_id, id]
  sorted entries _ := by simp

theorem sortedItems_eq (items : List Value) : Value.sortedItems items = items.map Value.sorted := by
  induction items with
  | nil => rfl
  | cons v rest ih => rw [Value.sortedItems, ih, List.map_cons]

theorem sortedEntries_eq (entries : Entries) :
    Value.sortedEntries entries = entries.map fun entry => (entry.1, entry.2.sorted) := by
  induction entries with
  | nil => rfl
  | cons entry rest ih => rw [Value.sortedEntries, ih, List.map_cons]

theorem rearranges_sorted : Rearranges Value.sorted where
  null := rfl
  flag _ := rfl
  integer _ := rfl
  text _ := rfl
  list items := by rw [Value.sorted, sortedItems_eq]
  table entries distinct := by
    have keys : (Value.sortedEntries entries).map Prod.fst = entries.map Prod.fst := by
      rw [sortedEntries_eq, List.map_map]
      rfl
    refine ⟨sortEntries (Value.sortedEntries entries), by rw [Value.sorted], fun name => ?_,
      fun entry mem => ?_⟩
    · rw [lookup_sortEntries (keys ▸ distinct), sortedEntries_eq,
        Shape.lookup_mapValues fun _ => Value.sorted]
    · have old := mem_of_mem_sortEntries mem
      rw [sortedEntries_eq] at old
      obtain ⟨⟨key, v⟩, inside, rfl⟩ := List.mem_map.mp old
      exact ⟨v, inside, rfl⟩
  sorted entries sorted := by
    rw [Value.sorted, sortedEntries_eq, sortEntries_of_sorted]
    exact List.pairwise_map.mpr sorted

/-! ### Records -/

theorem Shape.slots_of_fits {shape : Shape} {d : Dialect} {entries : Entries}
    (fits : ∀ entry ∈ entries, shape.checkEntry d entry = .ok ()) :
    shape.slots d (.table entries) = .ok ⟨entries, false, .missingField⟩ := by
  show shape.tableSlots d entries = _
  rw [tableSlots, forM_eq_ok_iff.mpr fits]
  rfl

namespace Rearranges

variable {f : Value → Value} (rearranges : Rearranges f)
include rearranges

/-- A record is read from a table whose entries all fit it, whatever their order. -/
theorem slots (shape : Shape) (d : Dialect) {v : Value} {entries : Entries}
    (table : v = .table entries) (distinct : (entries.map Prod.fst).Nodup)
    (fits : ∀ entry ∈ entries, shape.checkEntry d (entry.1, f entry.2) = .ok ()) :
    ∃ arranged, shape.slots d (f v) = .ok ⟨arranged, false, .missingField⟩ ∧
      ∀ name, arranged.lookup name = (entries.lookup name).map f := by
  obtain ⟨arranged, same, found, kept⟩ := rearranges.table entries distinct
  rw [table, same]
  refine ⟨arranged, Shape.slots_of_fits fun entry mem => ?_, found⟩
  obtain ⟨w, mem, same⟩ := kept entry mem
  have fit := fits _ mem
  rw [← same] at fit
  exact fit

/-- A record of one of several kinds is read from what stands beside its tag. -/
theorem tagged {α : Type} {tagged : Tagged α} {decoder : Decoder α} (made : decoder = tagged.decode)
    {kind : String} {read : Value → Except Misfit α} (named : tagged.kinds.lookup kind = some read)
    (shape : Shape) (d : Dialect) {v : Value} {fields : Entries}
    (table : v = .table ((tagged.key, .text kind) :: fields))
    (distinct : (((tagged.key, .text kind) :: fields).map Prod.fst).Nodup)
    (fits : ∀ entry ∈ fields, shape.checkEntry .buffered (entry.1, f entry.2) = .ok ()) :
    ∃ arranged, decoder d (f v) = read (.table arranged) ∧
      shape.slots .buffered (.table arranged) = .ok ⟨arranged, false, .missingField⟩ ∧
      ∀ name, arranged.lookup name =
        if name = tagged.key then none else (fields.lookup name).map f := by
  obtain ⟨arranged, same, found, kept⟩ := rearranges.table _ distinct
  have tag : arranged.lookup tagged.key = some (.text kind) := by
    rw [found, List.lookup_cons_self, Option.map_some, rearranges.text]
  have known : tagged.kind (.text kind) = .ok read := by
    show Decoder.variantNamed tagged.kinds kind = .ok read
    rw [Decoder.variantNamed, named]
  refine ⟨arranged.filter fun entry => entry.1 ≠ tagged.key, ?_,
    Shape.slots_of_fits fun entry mem => ?_, fun name => ?_⟩
  · rw [made, table, same]
    simp only [Tagged.decode, Decoder.entries?, tag]
    rw [known]
    rfl
  · -- what stands beside the tag is an entry of the record
    obtain ⟨old, other⟩ := List.mem_filter.mp mem
    obtain ⟨w, mem, same⟩ := kept entry old
    have inside : (entry.1, w) ∈ fields := by
      rcases List.mem_cons.mp mem with here | later
      · exact absurd (congrArg Prod.fst here) (of_decide_eq_true other)
      · exact later
    have fit := fits _ inside
    rw [← same] at fit
    exact fit
  · by_cases tagKey : name = tagged.key
    · rw [if_pos tagKey, List.lookup_eq_none_iff]
      intro entry mem
      rw [tagKey]
      exact bne_iff_ne.mpr (of_decide_eq_true (List.mem_filter.mp mem).2).symm
    · rw [if_neg tagKey,
        @Shape.lookup_filter (fun key => decide (key ≠ tagged.key)) name (decide_eq_true tagKey),
        found, List.lookup_cons, beq_eq_false_iff_ne.mpr tagKey]

end Rearranges

end ContainerFixture.Document
