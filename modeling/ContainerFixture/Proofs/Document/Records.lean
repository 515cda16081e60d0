import ContainerFixture.Document.Decode
import ContainerFixture.Proofs.Port.Reading

/-!
# What a record was read from

A record is read from a table or from a list. When it could be read, every value that stands for one
of its fields fits that field (`Shape.Holds.read`); of a record that refuses unknown keys, the table
has no other keys (`Shape.declared_of_slots`); and of one that ignores them, the same is read when
they are left out (`Shape.read_filter`).
-/

namespace ContainerFixture.Document

variable {ε α β : Type}

/-! ### Steps that may fail -/

theorem bind_eq_ok_iff {step : Except ε α} {next : α → Except ε β} {b : β} :
    (step >>= next) = .ok b ↔ ∃ a, step = .ok a ∧ next a = .ok b := by
  cases step <;> simp [bind, Except.bind]

theorem map_eq_ok_iff {step : Except ε α} {f : α → β} {b : β} :
    step.map f = .ok b ↔ ∃ a, step = .ok a ∧ f a = b := by
  cases step <;> simp [Except.map]

theorem forM_eq_ok_iff {items : List α} {check : α → Except ε Unit} :
    items.forM check = .ok () ↔ ∀ x ∈ items, check x = .ok () := by
  induction items with
  | nil => simp [List.forM_nil, pure, Except.pure]
  | cons first rest ih =>
    have taken : (first :: rest).forM check = check first >>= fun _ => rest.forM check := rfl
    rw [taken, bind_eq_ok_iff, List.forall_mem_cons, ← ih]
    exact ⟨fun ⟨_, here, there⟩ => ⟨here, there⟩, fun ⟨here, there⟩ => ⟨(), here, there⟩⟩

theorem forM_filter {items : List α} {check : α → Except ε Unit} {keep : α → Bool}
    (passed : ∀ x, keep x = false → check x = .ok ()) :
    (items.filter keep).forM check = items.forM check := by
  induction items with
  | nil => rfl
  | cons first rest ih =>
    have taken (all : List α) :
        (first :: all).forM check = check first >>= fun _ => all.forM check := rfl
    cases kept : keep first with
    | true => rw [List.filter_cons_of_pos kept, taken, taken, ih]
    | false =>
      rw [List.filter_cons_of_neg (by simp [kept]), ih, taken, passed first kept]
      rfl

/-! ### Lists -/

/-- The items of a list, however it is written. -/
def Value.items? : Value → Option (List Value)
  | .list items | .rows items => some items
  | _ => none

theorem Decoder.listOf_items {item : Decoder α} {d : Dialect} {v : Value} {results : List α}
    (read : listOf item d v = .ok results) {items : List Value} (listed : v.items? = some items) :
    ∀ x ∈ items, ∃ a, item d x = .ok a := by
  cases v with
  | list | rows =>
    cases listed
    exact exists_of_mapM_ok read
  | _ => cases listed

/-- The value with something done to every item, if it is a list. -/
def Value.mapItems (f : Value → Value) : Value → Value
  | .list items => .list (items.map f)
  | .rows items => .rows (items.map f)
  | v => v

theorem Decoder.listOf_mapItems {item : Decoder α} {f : Value → Value} {d : Dialect}
    (same : ∀ x, item d (f x) = item d x) (v : Value) :
    listOf item d (v.mapItems f) = listOf item d v := by
  have sameItems (items : List Value) : (items.map f).mapM (item d) = items.mapM (item d) := by
    rw [List.mapM_map]
    exact congrArg (List.mapM · items) (funext same)
  cases v with
  | list items | rows items => exact sameItems items
  | _ => rfl

/-! ### Records -/

namespace Shape

/-- The values that stand for the field of a name: that of its key in a table, or the one at its
place in a list. -/
inductive Holds (shape : Shape) (v : Value) (name : String) (inner : Value) : Prop where
  | entry (entries : Entries) (table : v = .table entries) (mem : (name, inner) ∈ entries)
  | item (items : List Value) (listed : v.items? = some items)
    (mem : (name, inner) ∈ shape.names.zip items)

theorem slots_of_read {shape : Shape} {d : Dialect} {v : Value} {next : Slots → Except Misfit α}
    {a : α} (done : (shape.slots d v >>= next) = .ok a) : ∃ slots, shape.slots d v = .ok slots := by
  obtain ⟨slots, read, -⟩ := bind_eq_ok_iff.mp done
  exact ⟨slots, read⟩

theorem find?_eq_some {shape : Shape} (distinct : shape.names.Nodup) {f : Field}
    (mem : f ∈ shape.fields) : (shape.fields.find? fun g => g.name = f.name) = some f := by
  obtain ⟨front, rest, split⟩ := List.append_of_mem mem
  rw [names, split, List.map_append, List.map_cons] at distinct
  refine List.find?_eq_some_iff_append.mpr ⟨by simp, front, rest, split, fun g before => ?_⟩
  have other : g.name ≠ f.name :=
    (List.nodup_append.mp distinct).2.2 _ (List.mem_map_of_mem before) _ List.mem_cons_self
  simpa using other

theorem eq_of_name {shape : Shape} (distinct : shape.names.Nodup) {f g : Field}
    (mem : f ∈ shape.fields) (mem' : g ∈ shape.fields) (same : f.name = g.name) : f = g := by
  have found := find?_eq_some distinct mem
  rw [same, find?_eq_some distinct mem'] at found
  exact (Option.some.inj found).symm

theorem declared_of_slots {shape : Shape} (closed : shape.closed = true) {d : Dialect}
    {entries : Entries} {slots : Slots} (read : shape.slots d (.table entries) = .ok slots) :
    ∀ entry ∈ entries, entry.1 ∈ shape.names := by
  intro entry mem
  obtain ⟨_, checked, -⟩ :=
    bind_eq_ok_iff.mp (show shape.tableSlots d entries = .ok slots from read)
  have fits := forM_eq_ok_iff.mp checked entry mem
  unfold checkEntry at fits
  cases found : shape.fields.find? fun f => f.name = entry.1 with
  | none => simp [found, closed] at fits
  | some f =>
    have named : f.name = entry.1 := by simpa using List.find?_some found
    rw [← named]
    exact List.mem_map_of_mem (List.mem_of_find?_eq_some found)

theorem Holds.read {shape : Shape} (distinct : shape.names.Nodup) {name : String}
    {item : Decoder α} (declared : field name item ∈ shape.fields) {d : Dialect} {v inner : Value}
    {slots : Slots} (read : shape.slots d v = .ok slots) (holds : shape.Holds v name inner) :
    ∃ a, item d inner = .ok a := by
  -- every field that is given is checked before any is looked up
  have checked : (field name item).check d inner = .ok () := by
    cases holds with
    | entry entries table mem =>
      subst table
      obtain ⟨_, checked, -⟩ :=
        bind_eq_ok_iff.mp (show shape.tableSlots d entries = .ok slots from read)
      have fits := forM_eq_ok_iff.mp checked _ mem
      have found : shape.fields.find? (fun f => f.name = name) = some (field name item) :=
        find?_eq_some distinct declared
      rwa [checkEntry, found] at fits
    | item items listed mem =>
      have listSlots : shape.listSlots d items = .ok slots := by
        cases v with
        | list | rows =>
          cases listed
          exact read
        | _ => cases listed
      obtain ⟨_, checked, -⟩ := bind_eq_ok_iff.mp listSlots
      rw [names, List.zip_map_left] at mem
      obtain ⟨⟨f, x⟩, paired, same⟩ := List.mem_map.mp mem
      obtain ⟨named, rfl⟩ := Prod.mk.inj same
      have fits := forM_eq_ok_iff.mp checked _ paired
      rwa [eq_of_name distinct (List.of_mem_zip paired).1 declared named] at fits
  obtain ⟨a, done, -⟩ := map_eq_ok_iff.mp checked
  exact ⟨a, done⟩

theorem Holds.readItem {shape : Shape} (distinct : shape.names.Nodup) {name : String}
    {item : Decoder α} (declared : field name (.listOf item) ∈ shape.fields) {d : Dialect}
    {v list inner : Value} {slots : Slots} (read : shape.slots d v = .ok slots)
    (holds : shape.Holds v name list) {items : List Value} (listed : list.items? = some items)
    (mem : inner ∈ items) : ∃ a, item d inner = .ok a := by
  obtain ⟨_, all⟩ := holds.read distinct declared read
  exact Decoder.listOf_items all listed inner mem

/-! ### Unknown keys that are ignored -/

theorem lookup_filter {keep : String → Bool} {name : String} (kept : keep name = true)
    (entries : Entries) : (entries.filter fun entry => keep entry.1).lookup name =
      entries.lookup name := by
  induction entries with
  | nil => rfl
  | cons first rest ih =>
    obtain ⟨key, v⟩ := first
    by_cases same : name = key
    · subst same
      simp [kept]
    · have differs : (name == key) = false := by simpa using same
      by_cases stays : keep key = true <;> simp [stays, ih, List.lookup_cons, differs]

/-- What is read by the names of the fields alone does not depend on other keys. -/
theorem read_filter {shape : Shape} (lenient : shape.closed = false) (keep : String → Bool)
    (names : ∀ name ∈ shape.names, keep name = true) {d : Dialect} {entries : Entries}
    {next : Slots → Except Misfit α}
    (blind : ∀ present, (∀ name ∈ shape.names, present.lookup name = entries.lookup name) →
      next ⟨present, false, .missingField⟩ = next ⟨entries, false, .missingField⟩) :
    (shape.slots d (.table (entries.filter fun entry => keep entry.1)) >>= next) =
      (shape.slots d (.table entries) >>= next) := by
  have checks : (entries.filter fun entry => keep entry.1).forM (shape.checkEntry d) =
      entries.forM (shape.checkEntry d) := by
    refine forM_filter fun entry dropped => ?_
    have undeclared : shape.fields.find? (fun f => f.name = entry.1) = none := by
      rw [List.find?_eq_none]
      intro f mem named
      have kept := names f.name (List.mem_map_of_mem mem)
      simp_all
    simp [checkEntry, undeclared, lenient]
  have same := blind (entries.filter fun entry => keep entry.1)
    fun name mem => lookup_filter (names name mem) entries
  show (shape.tableSlots d _ >>= next) = (shape.tableSlots d entries >>= next)
  unfold tableSlots
  rw [checks]
  cases entries.forM (shape.checkEntry d) with
  | error cause => rfl
  | ok _ => exact same

/-! ### Values that are read alike -/

section

variable {d : Dialect} {f : Value → Value} {present entries : Entries} {name : String}

theorem required_of_map (item : Decoder α) (same : ∀ v, item d (f v) = item d v)
    (looked : present.lookup name = (entries.lookup name).map f) :
    Slots.required ⟨present, false, .missingField⟩ name item d =
      Slots.required ⟨entries, false, .missingField⟩ name item d := by
  unfold Slots.required
  simp only [looked]
  cases entries.lookup name with
  | none => rfl
  | some v => exact same v

theorem withDefault_of_map (item : Decoder α) (same : ∀ v, item d (f v) = item d v)
    (looked : present.lookup name = (entries.lookup name).map f) (default : α) :
    Slots.withDefault ⟨present, false, .missingField⟩ name item default d =
      Slots.withDefault ⟨entries, false, .missingField⟩ name item default d := by
  unfold Slots.withDefault
  simp only [looked]
  cases entries.lookup name with
  | none => rfl
  | some v => exact same v

end

theorem lookup_mapValues (f : String → Value → Value) (name : String) (entries : Entries) :
    (entries.map fun entry => (entry.1, f entry.1 entry.2)).lookup name =
      (entries.lookup name).map (f name) := by
  induction entries with
  | nil => rfl
  | cons first rest ih =>
    obtain ⟨key, v⟩ := first
    rw [List.map_cons, List.lookup_cons, List.lookup_cons]
    cases same : name == key with
    | true => rw [beq_iff_eq.mp same]; rfl
    | false => exact ih

/-- A table is read alike when its values are changed in ways that its fields do not notice. -/
theorem read_mapValues {shape : Shape} {d : Dialect} (f : String → Value → Value)
    (same : ∀ g ∈ shape.fields, ∀ v, g.check d (f g.name v) = g.check d v) {entries : Entries}
    {next : Slots → Except Misfit α}
    (blind : ∀ present : Entries,
      (∀ name, present.lookup name = (entries.lookup name).map (f name)) →
      next ⟨present, false, .missingField⟩ = next ⟨entries, false, .missingField⟩) :
    (shape.slots d (.table (entries.map fun entry => (entry.1, f entry.1 entry.2))) >>= next) =
      (shape.slots d (.table entries) >>= next) := by
  have checks (entry : String × Value) :
      shape.checkEntry d (entry.1, f entry.1 entry.2) = shape.checkEntry d entry := by
    unfold checkEntry
    dsimp only
    cases found : shape.fields.find? fun g => g.name = entry.1 with
    | none => rfl
    | some g =>
      have named : g.name = entry.1 := by simpa using List.find?_some found
      rw [← named]
      exact same g (List.mem_of_find?_eq_some found) entry.2
  have allChecks :
      (entries.map fun entry => (entry.1, f entry.1 entry.2)).forM (shape.checkEntry d) =
        entries.forM (shape.checkEntry d) :=
    List.forM_map.trans (congrArg (List.forM entries) (funext checks))
  have alike := blind _ fun name => lookup_mapValues f name entries
  show (shape.tableSlots d _ >>= next) = (shape.tableSlots d entries >>= next)
  unfold tableSlots
  rw [allChecks]
  cases entries.forM (shape.checkEntry d) with
  | error cause => rfl
  | ok _ => exact alike

end Shape

theorem Tagged.lookup_of_kind {tagged : Tagged α} {kind : String} {read : Value → Except Misfit α}
    (named : tagged.kind (.text kind) = .ok read) : tagged.kinds.lookup kind = some read := by
  change Decoder.variantNamed tagged.kinds kind = .ok read at named
  unfold Decoder.variantNamed at named
  cases found : tagged.kinds.lookup kind with
  | none => simp [found] at named
  | some read' => simpa [found] using named

/-- A record of one of several kinds is read without the keys that its kind does not look at. -/
theorem Tagged.decode_filter {tagged : Tagged α} (keep : String → Bool)
    (tagKept : keep tagged.key = true) {entries : Entries}
    (blind : ∀ tag read, entries.lookup tagged.key = some tag → tagged.kind tag = .ok read →
      ∀ rest : Entries, read (.table (rest.filter fun entry => keep entry.1)) = read (.table rest))
    (d : Dialect) :
    tagged.decode d (.table (entries.filter fun entry => keep entry.1)) =
      tagged.decode d (.table entries) := by
  simp only [Tagged.decode, Decoder.entries?, Shape.lookup_filter tagKept]
  cases found : entries.lookup tagged.key with
  | none => rfl
  | some tag =>
    -- whatever the tag names, both sides go on with what stands beside the tag
    show (tagged.kind tag >>= fun read => read (.table _)) =
      (tagged.kind tag >>= fun read => read (.table _))
    cases kind : tagged.kind tag with
    | error cause => rfl
    | ok read =>
      have swapped : (entries.filter fun entry => keep entry.1).filter (·.1 ≠ tagged.key) =
          (entries.filter (·.1 ≠ tagged.key)).filter fun entry => keep entry.1 := by
        rw [List.filter_filter, List.filter_filter]
        simp only [Bool.and_comm]
      show read (.table _) = read (.table _)
      rw [swapped]
      exact blind tag read found kind _

end ContainerFixture.Document
