/-
# RecordStore.Dataset.Basic — plain images of all partitions.

A dataset holds records by partition and key, both in ascending order.  Stores are seeded from
datasets and compared by them.  A partition may be listed without any records.
-/
import RecordStore.KeyCounter
import RecordStore.Record

namespace RecordStore

/-- Records by partition and key. -/
structure Dataset where
  partitions : NameMap (NameMap Record)
deriving DecidableEq

namespace Dataset

/-- The dataset without partitions. -/
def empty : Dataset := ⟨NameMap.empty⟩

/-- The dataset with a record under a partition and key, in the place of any earlier one. -/
def insert (d : Dataset) (partition key : String) (record : Record) : Dataset :=
  ⟨d.partitions.insert partition
    (((d.partitions.get? partition).getD .empty).insert key record)⟩

/-- The record under a partition and key. -/
def get? (d : Dataset) (partition key : String) : Option Record :=
  (d.partitions.get? partition).bind fun records => records.get? key

/-- The number of records in all partitions together. -/
def size (d : Dataset) : Nat :=
  d.partitions.values.foldl (fun n records => n + records.size) 0

/-- The keys that write a number, as numbers, partition by partition. -/
def numericKeys (d : Dataset) : List UInt64 :=
  d.partitions.values.flatMap fun records => records.names.filterMap KeyCounter.number?

/-- The largest number that a key writes. -/
def largestKey? (d : Dataset) : Option UInt64 := d.numericKeys.max?

/-- A dataset as an object of objects of records. -/
def toValue (d : Dataset) : Value :=
  .object (d.partitions.map fun _ records => .object (records.map fun _ r => r.toValue))

/-- The text of a dataset, without blanks. -/
def text (d : Dataset) : String := d.toValue.json.render

/-- Equality of datasets up to numeric equality of their doubles. -/
def same (d e : Dataset) : Bool := d.toValue.same e.toValue

theorem get?_insert (d : Dataset) (partition key name other : String) (r : Record) :
    (d.insert partition key r).get? name other =
      if name = partition ∧ other = key then some r else d.get? name other := by
  rw [get?, insert, NameMap.get?_insert]
  by_cases hname : name = partition
  · subst hname
    rw [if_pos rfl, Option.bind_some, NameMap.get?_insert, get?]
    cases d.partitions.get? name <;> simp
  · simp [hname, get?]

theorem mem_numericKeys_iff {d : Dataset} {number : UInt64} :
    number ∈ d.numericKeys ↔
      ∃ partition key r, d.get? partition key = some r ∧ KeyCounter.number? key = some number := by
  constructor
  · intro h
    obtain ⟨records, hrecords, hkeys⟩ := List.mem_flatMap.mp h
    obtain ⟨key, hkey, hnumber⟩ := List.mem_filterMap.mp hkeys
    obtain ⟨⟨partition, _⟩, hentry, rfl⟩ := List.mem_map.mp hrecords
    obtain ⟨r, hr⟩ := NameMap.contains_iff.mp (NameMap.mem_names_iff.mp hkey)
    refine ⟨partition, key, r, ?_, hnumber⟩
    rw [Dataset.get?, NameMap.mem_entries_iff.mp hentry]
    exact hr
  · rintro ⟨partition, key, r, hr, hnumber⟩
    obtain ⟨records, hrecords, hkey⟩ := Option.bind_eq_some_iff.mp hr
    refine List.mem_flatMap.mpr ⟨records, ?_, ?_⟩
    · exact List.mem_map.mpr ⟨(partition, records), NameMap.mem_entries_iff.mpr hrecords, rfl⟩
    · refine List.mem_filterMap.mpr ⟨key, ?_, hnumber⟩
      exact NameMap.mem_names_of_get? hkey

/-- No key of a dataset writes a number above the largest one. -/
theorem le_largestKey? {d : Dataset} {partition key : String} {r : Record} {number : UInt64}
    (hr : d.get? partition key = some r) (hn : KeyCounter.number? key = some number) :
    ∃ largest, d.largestKey? = some largest ∧ number ≤ largest := by
  have hmem : number ∈ d.numericKeys := mem_numericKeys_iff.mpr ⟨partition, key, r, hr, hn⟩
  obtain ⟨largest, hlargest⟩ := Option.isSome_iff_exists.mp (List.isSome_max?_of_mem hmem)
  exact ⟨largest, hlargest, (List.max?_eq_some_iff.mp hlargest).2 number hmem⟩

/-- The largest number that a key of a dataset writes is written by one of its keys. -/
theorem exists_of_largestKey? {d : Dataset} {largest : UInt64}
    (h : d.largestKey? = some largest) :
    ∃ partition key r, d.get? partition key = some r ∧ KeyCounter.number? key = some largest :=
  mem_numericKeys_iff.mp (List.max?_eq_some_iff.mp h).1

end Dataset

end RecordStore
