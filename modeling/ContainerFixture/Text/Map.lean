/-!
# Maps from text to text

Environments and labels: each key once, in ascending order. The order is by code point, which is
also the order of the UTF-8 bytes.
-/
namespace ContainerFixture.Text

/-- Puts an entry into a list sorted by key; an earlier entry of the key is replaced. -/
def insertEntry (key value : String) : List (String × String) → List (String × String)
  | [] => [(key, value)]
  | entry :: rest =>
    if key < entry.1 then (key, value) :: entry :: rest
    else if key = entry.1 then (key, value) :: rest
    else entry :: insertEntry key value rest

theorem mem_insertEntry {key value : String} {entries : List (String × String)}
    {entry : String × String} (member : entry ∈ insertEntry key value entries) :
    entry = (key, value) ∨ entry ∈ entries := by
  induction entries with
  | nil => simpa [insertEntry] using member
  | cons first rest ih =>
    simp only [insertEntry] at member
    split at member
    · simpa using member
    · split at member
      · rcases List.mem_cons.mp member with rfl | later
        · exact Or.inl rfl
        · exact Or.inr (by simp [later])
      · rcases List.mem_cons.mp member with rfl | later
        · exact Or.inr (by simp)
        · rcases ih later with rfl | old
          · exact Or.inl rfl
          · exact Or.inr (by simp [old])

theorem pairwise_insertEntry (key value : String) {entries : List (String × String)}
    (sorted : entries.Pairwise fun a b => a.1 < b.1) :
    (insertEntry key value entries).Pairwise fun a b => a.1 < b.1 := by
  induction entries with
  | nil => simp [insertEntry]
  | cons first rest ih =>
    rw [List.pairwise_cons] at sorted
    simp only [insertEntry]
    split
    · next less =>
      rw [List.pairwise_cons, List.pairwise_cons]
      refine ⟨fun entry member => ?_, sorted⟩
      rcases List.mem_cons.mp member with rfl | later
      · exact less
      · exact String.lt_trans less (sorted.1 entry later)
    · split
      · next same =>
        rw [List.pairwise_cons]
        exact ⟨fun entry member => same ▸ sorted.1 entry member, sorted.2⟩
      · next notLess notSame =>
        rw [List.pairwise_cons]
        refine ⟨fun entry member => ?_, ih sorted.2⟩
        rcases mem_insertEntry member with rfl | old
        · exact Decidable.byContradiction fun notGreater =>
            notSame (String.le_antisymm (String.not_lt.mp notGreater) (String.not_lt.mp notLess))
        · exact sorted.1 entry old

/-- A map from text to text. -/
structure TextMap where
  entries : List (String × String)
  sorted : entries.Pairwise fun a b => a.1 < b.1

namespace TextMap

def empty : TextMap := ⟨[], List.Pairwise.nil⟩

/-- The map with an entry more, or with the key's entry replaced. -/
def insert (map : TextMap) (key value : String) : TextMap :=
  ⟨insertEntry key value map.entries, pairwise_insertEntry key value map.sorted⟩

/-- The map of a list of entries; of several entries of one key the last counts. -/
def ofList (entries : List (String × String)) : TextMap :=
  entries.foldl (fun map entry => map.insert entry.1 entry.2) empty

/-- The keys, in ascending order. -/
def keys (map : TextMap) : List String := map.entries.map (·.1)

theorem ext {a b : TextMap} (same : a.entries = b.entries) : a = b := by
  cases a; cases b; subst same; rfl

instance : DecidableEq TextMap := fun a b =>
  if same : a.entries = b.entries then isTrue (ext same)
  else isFalse fun equal => same (congrArg entries equal)

instance : Inhabited TextMap := ⟨empty⟩

end TextMap

end ContainerFixture.Text
