/-
# RecordStore.Proofs.Partition — a partition as a table of records and an order of keys.

Looking a record up by its key wants a table, visiting the records in the order of their arrival wants
a list of the keys.  A `Table` keeps both.  They are changed under different conditions: the order
takes a key in only where the table had no record under it, and gives one up only where the table had
one.  Listing the records goes by the order and passes over a key that the table does not know, so
the two drifting apart would not show at once, but as a record that is missing or there twice later.

They do not drift apart.  A table is `InStep` with a partition when its order is the visiting order of
the partition and its look-up that of the partition.  Each change keeps this, whatever keys come again
or were never there (`inStep_after`), and so does a run of changes (`inStep_run`).  The partition in
turn lists what an association list would that is changed in the plainest way, by `changed`: a record
is replaced in its place, added at the end, or dropped (`entries_run`).  So all three answer alike
(`table_is_association_list`).  A store that keeps its partitions as tables is treated in
`RecordStore.Proofs.Store.Tables`.
-/
import Mathlib.Data.List.Basic
import RecordStore.Partition

namespace RecordStore.Partition

variable {p : Partition} {key : String} {r : Record} {l : List (String × Record)}

/-! ## Association lists -/

/-- A change of the records of a partition. -/
inductive Change where
  | insert (key : String) (record : Record)
  | remove (key : String)
  | clear

/-- An association list after a change. -/
def changed (l : List (String × Record)) : Change → List (String × Record)
  | .insert key record =>
    if key ∈ l.map Prod.fst then l.map fun e => if e.1 = key then (key, record) else e
    else l ++ [(key, record)]
  | .remove key => l.filter fun e => e.1 ≠ key
  | .clear => []

/-- The association list that changes make of the list without entries. -/
def listed (changes : List Change) : List (String × Record) := changes.foldl changed []

/-- The partition after a change. -/
def after (p : Partition) : Change → Partition
  | .insert key record => p.insert key record
  | .remove key => p.erase key
  | .clear => empty

/-- The partition after changes. -/
def run (p : Partition) (changes : List Change) : Partition := changes.foldl after p

/-- Where no key is listed twice, storing a record replaces the one entry of its key or adds one. -/
theorem store_eq_changed (h : (l.map Prod.fst).Nodup) :
    store key r l = changed l (.insert key r) := by
  induction l with
  | nil => simp [store, changed]
  | cons e rest ih =>
    obtain ⟨hhead, htail⟩ := List.nodup_cons.mp h
    have hrest := ih htail
    by_cases hk : key = e.1
    · -- the other entries have other keys
      subst hk
      have hothers : rest.map (fun d => if d.1 = e.1 then (e.1, r) else d) = rest.map id := by
        apply List.map_congr_left
        intro d hd
        have hne : d.1 ≠ e.1 := fun heq => hhead (heq ▸ List.mem_map_of_mem hd)
        simp [hne]
      simp [store, changed, hothers]
    · by_cases hmem : key ∈ rest.map Prod.fst
      · simp only [changed, hmem, if_true] at hrest
        simp [store, changed, hk, Ne.symm hk, hmem, hrest]
      · simp only [changed, hmem, if_false] at hrest
        simp [store, changed, hk, hmem, hrest]

theorem entries_after (p : Partition) (change : Change) :
    (p.after change).entries = changed p.entries change := by
  cases change with
  | insert key record => exact store_eq_changed p.nodup
  | remove key => rfl
  | clear => rfl

/-- Partitions list their records as association lists do. -/
theorem entries_run (p : Partition) (changes : List Change) :
    (p.run changes).entries = changes.foldl changed p.entries := by
  induction changes generalizing p with
  | nil => rfl
  | cons change rest ih =>
    show ((p.after change).run rest).entries = rest.foldl changed (changed p.entries change)
    rw [ih, entries_after]

/-! ## Tables -/

/-- The records of a partition by key, and beside them the keys in visiting order. -/
structure Table where
  records : NameMap Record
  order : List String

namespace Table

/-- The table without records. -/
def empty : Table := ⟨.empty, []⟩

/-- The record of a key. -/
def get? (t : Table) (key : String) : Option Record := t.records.get? key

/-- Whether there is a record of a key. -/
def contains (t : Table) (key : String) : Bool := t.records.contains key

/-- The number of records. -/
def size (t : Table) : Nat := t.records.size

/-- Whether there are no records. -/
def isEmpty (t : Table) : Bool := t.records.entries.isEmpty

/-- The entries in visiting order, but for keys of the order that the records do not know. -/
def entries (t : Table) : List (String × Record) :=
  t.order.filterMap fun key => (t.records.get? key).map fun record => (key, record)

/-- The table with a record under a key, which goes to the end of the order if it was not there. -/
def insert (t : Table) (key : String) (record : Record) : Table where
  records := t.records.insert key record
  order := match t.records.get? key with
    | some _ => t.order
    | none => t.order ++ [key]

/-- The record that was under a key, and the table without it. -/
def remove (t : Table) (key : String) : Option Record × Table :=
  match t.records.get? key with
  | some record => (some record, ⟨t.records.erase key, t.order.filter fun k => k ≠ key⟩)
  | none => (none, t)

/-- The table after a change. -/
def after (t : Table) : Change → Table
  | .insert key record => t.insert key record
  | .remove key => (t.remove key).2
  | .clear => empty

/-- The table after changes. -/
def run (t : Table) (changes : List Change) : Table := changes.foldl after t

/-- A table has the visiting order of a partition and its records. -/
structure InStep (t : Table) (p : Partition) : Prop where
  order : t.order = p.keys
  lookup : ∀ key, t.records.get? key = p.get? key

variable {t : Table}

/-! ### What a table in step shows -/

theorem InStep.contains_eq (h : t.InStep p) (key : String) : t.contains key = p.contains key := by
  rw [contains, NameMap.contains, h.lookup, Partition.contains]

theorem InStep.mem_order_iff (h : t.InStep p) : key ∈ t.order ↔ t.contains key = true := by
  rw [h.order, mem_keys_iff, contains, NameMap.contains_iff]
  simp [h.lookup]

/-- No key of the order is passed over. -/
theorem InStep.entries_eq (h : t.InStep p) : t.entries = p.entries := by
  have heach : ∀ e ∈ p.entries, (t.records.get? e.1).map (fun record => (e.1, record)) = some e := by
    intro e he
    rw [h.lookup, mem_entries_iff.mp he]
    rfl
  rw [entries, h.order, keys, List.filterMap_map]
  exact (List.filterMap_congr heach).trans List.filterMap_some

theorem InStep.size_eq (h : t.InStep p) : t.size = p.size := by
  have hperm : t.records.names.Perm t.order := by
    have hnodup : t.records.names.Nodup := NameMap.nodup_of_ascending t.records.ascending
    refine (List.perm_ext_iff_of_nodup hnodup (h.order ▸ p.keys_nodup)).mpr fun key => ?_
    rw [NameMap.mem_names_iff, h.mem_order_iff]
    rfl
  have hlength := hperm.length_eq
  rw [h.order] at hlength
  show t.records.entries.length = p.entries.length
  simpa [NameMap.names, keys] using hlength

theorem isEmpty_iff : t.isEmpty = true ↔ t.size = 0 := by
  simp [isEmpty, size, NameMap.size]

/-- Removing gives the record that there was. -/
theorem InStep.fst_remove (h : t.InStep p) (key : String) : (t.remove key).1 = p.get? key := by
  rw [remove, ← h.lookup]
  cases t.records.get? key <;> rfl

/-! ### Changes -/

theorem inStep_empty : empty.InStep .empty := ⟨rfl, fun _ => rfl⟩

theorem inStep_insert (h : t.InStep p) (key : String) (r : Record) :
    (t.insert key r).InStep (p.insert key r) := by
  refine ⟨?order, ?lookup⟩
  case order =>
    rw [keys_insert, ← h.order, insert]
    cases hget : t.records.get? key with
    | some old =>
      have hmem : key ∈ t.order := h.mem_order_iff.mpr (NameMap.contains_iff.mpr ⟨old, hget⟩)
      simp [hmem]
    | none =>
      have hnew : key ∉ t.order := by
        simp [h.mem_order_iff, contains, NameMap.contains, hget]
      simp [hnew]
  case lookup =>
    intro other
    simp only [insert, NameMap.get?_insert, get?_insert, h.lookup]

/-- A key that was not there is removed from neither, and is in neither. -/
theorem inStep_remove (h : t.InStep p) (key : String) :
    (t.remove key).2.InStep (p.erase key) := by
  rw [remove]
  cases hget : t.records.get? key with
  | some old =>
    refine ⟨?order, ?lookup⟩
    case order => rw [keys_erase, ← h.order]
    case lookup =>
      intro other
      simp only [NameMap.get?_erase, get?_erase, h.lookup]
  | none =>
    rw [h.lookup] at hget
    rw [erase_of_get?_eq_none hget]
    exact h

theorem inStep_after (h : t.InStep p) (change : Change) :
    (t.after change).InStep (p.after change) := by
  cases change with
  | insert key record => exact inStep_insert h key record
  | remove key => exact inStep_remove h key
  | clear => exact inStep_empty

theorem inStep_run (h : t.InStep p) (changes : List Change) :
    (t.run changes).InStep (p.run changes) := by
  induction changes generalizing t p with
  | nil => exact h
  | cons change rest ih => exact ih (inStep_after h change)

end Table

/-- After any changes of a table without records, the order has each key of the table once and no
others, and the entries are those of the association list.  Looking up, counting and removing agree
with this list.  A partition after the same changes is in step with the table and has the entries of
the list. -/
theorem table_is_association_list (changes : List Change) :
    (Table.empty.run changes).order.Nodup ∧
    (∀ key, key ∈ (Table.empty.run changes).order ↔
      (Table.empty.run changes).records.contains key = true) ∧
    (Table.empty.run changes).entries = listed changes ∧
    (∀ key, (Table.empty.run changes).get? key = Entries.get? key (listed changes)) ∧
    (∀ key, (Table.empty.run changes).contains key = true ↔
      key ∈ (listed changes).map Prod.fst) ∧
    (Table.empty.run changes).size = (listed changes).length ∧
    ((Table.empty.run changes).isEmpty = true ↔ listed changes = []) ∧
    (∀ key, ((Table.empty.run changes).remove key).1 = Entries.get? key (listed changes)) ∧
    (Table.empty.run changes).InStep (empty.run changes) ∧
    (empty.run changes).entries = listed changes := by
  have hstep : (Table.empty.run changes).InStep (empty.run changes) :=
    Table.inStep_run Table.inStep_empty changes
  have hlisted : (empty.run changes).entries = listed changes := entries_run empty changes
  have hlookup : ∀ key, (empty.run changes).get? key = Entries.get? key (listed changes) := by
    intro key
    rw [Partition.get?, hlisted]
  have hsize : (Table.empty.run changes).size = (listed changes).length := by
    rw [hstep.size_eq, size, hlisted]
  refine ⟨?nodup, ?order, ?entries, ?lookup, ?contains, hsize, ?isEmpty, ?removed, hstep, hlisted⟩
  case nodup =>
    rw [hstep.order]
    exact (empty.run changes).keys_nodup
  case order =>
    intro key
    exact hstep.mem_order_iff
  case entries => rw [hstep.entries_eq, hlisted]
  case lookup =>
    intro key
    exact (hstep.lookup key).trans (hlookup key)
  case contains =>
    intro key
    rw [hstep.contains_eq, contains, hlookup, Entries.isSome_get?]
  case isEmpty => rw [Table.isEmpty_iff, hsize, List.length_eq_zero_iff]
  case removed =>
    intro key
    rw [hstep.fst_remove, hlookup]

/-- A record that is replaced stays in its place, one that comes back after its removal goes last. -/
example :
    ((Table.empty.run [.insert "b" .empty, .insert "a" .empty, .insert "c" .empty, .remove "d",
      .insert "a" (Record.empty.insert "n" .null), .remove "b", .insert "b" .empty]).entries) =
    [("a", Record.empty.insert "n" .null), ("c", .empty), ("b", .empty)] := by
  rfl

end RecordStore.Partition
