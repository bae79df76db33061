/-
# RecordStore.Proofs.Store.SameContents — stores that cannot be told apart by what they hold.

Two stores have the same contents when they follow the same types and every partition has the same
records under the same keys in the same order.  Then they answer every query, every look-up and
every count alike, and write out the same dataset.  Their counters may differ, and also whether a
partition without records is kept; the second cannot happen between stores that cover their schema
(`SameContents.eq_of_covers`).

Adding a dataset takes stores with the same contents to stores with the same contents
(`SameContents.withRecords`).
-/
import RecordStore.Proofs.Store.Image
import RecordStore.Proofs.Store.Shape

namespace RecordStore.Store

/-- The two stores have the same types and, in every partition, the same records under the same keys
in the same order. -/
structure SameContents (s s' : Store) : Prop where
  schema : s.schema = s'.schema
  partition : ∀ name, s.partition name = s'.partition name

namespace SameContents

variable {s s' s'' : Store}

theorem refl (s : Store) : SameContents s s := ⟨rfl, fun _ => rfl⟩

theorem symm (h : SameContents s s') : SameContents s' s :=
  ⟨h.schema.symm, fun name => (h.partition name).symm⟩

theorem trans (h : SameContents s s') (h' : SameContents s' s'') : SameContents s s'' :=
  ⟨h.schema.trans h'.schema, fun name => (h.partition name).trans (h'.partition name)⟩

/-! ## Answers -/

theorem query_eq (h : SameContents s s') (typeName : String) (c : Option Criterion) :
    s.query typeName c = s'.query typeName c := by
  simp only [query, h.schema, h.partition]

theorem get_eq (h : SameContents s s') (typeName key : String) :
    s.get typeName key = s'.get typeName key := by
  simp only [get, h.schema, h.partition]

theorem count_eq (h : SameContents s s') (typeName : String) :
    s.count typeName = s'.count typeName := by
  simp only [count, h.schema, h.partition]

theorem toDataset_eq (h : SameContents s s') : s.toDataset = s'.toDataset :=
  toDataset_congr fun name key => by rw [h.partition name]

/-- Stores that cover their schema differ in nothing but the counter. -/
theorem eq_of_covers (h : SameContents s s') (hs : s.Covers) (hs' : s'.Covers) :
    s = { s' with counter := s.counter } := by
  have hpartitions : s.partitions = s'.partitions := by
    refine ext_partitions (fun name => ?_) h.partition
    rw [Bool.eq_iff_iff, hs name, hs' name, h.schema]
  obtain ⟨schema, counter, partitions⟩ := s
  obtain ⟨schema', counter', partitions'⟩ := s'
  obtain rfl : schema = schema' := h.schema
  obtain rfl : partitions = partitions' := hpartitions
  rfl

/-! ## Changes -/

theorem withCounter (h : SameContents s s') (c c' : KeyCounter) :
    SameContents { s with counter := c } { s' with counter := c' } :=
  ⟨h.schema, h.partition⟩

theorem setPartition (h : SameContents s s') (name : String) (p : Partition) :
    SameContents (s.setPartition name p) (s'.setPartition name p) := by
  refine ⟨h.schema, ?_⟩
  intro other
  rw [partition_setPartition, partition_setPartition, h.partition other]

theorem loadPartition (h : SameContents s s') (name : String) (records : NameMap Record) :
    SameContents (s.loadPartition name records) (s'.loadPartition name records) := by
  unfold Store.loadPartition
  rw [h.schema, h.partition name]
  split
  · exact h.setPartition name _
  · exact h

theorem foldl_loadPartition (l : List (String × NameMap Record)) (h : SameContents s s') :
    SameContents (l.foldl (fun s e => s.loadPartition e.1 e.2) s)
      (l.foldl (fun s e => s.loadPartition e.1 e.2) s') := by
  induction l generalizing s s' with
  | nil => exact h
  | cons e rest ih => exact ih (h.loadPartition e.1 e.2)

/-- Adding a dataset keeps the contents the same. -/
theorem withRecords (h : SameContents s s') (d : Dataset) :
    SameContents (s.withRecords d) (s'.withRecords d) :=
  foldl_loadPartition d.partitions.entries h

end SameContents

/-- A store without its records has the contents of the store that its schema starts with. -/
theorem sameContents_cleared_empty (s : Store) : SameContents s.cleared (empty s.schema) := by
  refine ⟨schema_cleared s, ?_⟩
  intro name
  rw [partition_cleared, partition_empty]

end RecordStore.Store
