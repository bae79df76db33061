/-
# RecordStore.Proofs.Store.Shape — which partitions a store has, and what queries answer from them.

A store is made with one partition for every partition name of its schema, and no operation adds or
drops one: entities go to the partition of their type, a dataset is only loaded into partitions that
a type uses, and clearing keeps partitions without their records (`Covers`, `covers_perform`).  So
after any run there is a partition for just the names that registered types have.

A query filters the records of one partition.  Where no partition is shared, all that it answers has
the shape of the type that was asked for, whatever the criterion (`hasShape_of_query`).
-/
import RecordStore.Proofs.Store.Contents

namespace RecordStore.Store

variable {schema : Schema} {ops : List Operation} {s s' : Store}

/-! ## Partitions -/

/-- A store has just the partitions that the types of its schema name. -/
def Covers (s : Store) : Prop :=
  ∀ name, s.partitions.contains name = true ↔ ∃ t ∈ s.schema.toList, t.partition = name

theorem covers_empty (schema : Schema) : (empty schema).Covers := by
  intro name
  show (NameMap.ofList (schema.toList.map fun t => (t.partition, Partition.empty))).contains name =
    true ↔ _
  rw [NameMap.contains_ofList_iff, List.map_map]
  exact List.mem_map

/-- Replacing the partition of a type adds no partition, since the store has it. -/
theorem covers_setPartition (hs : s.Covers) {t : EntityType} (ht : t ∈ s.schema.toList)
    (p : Partition) : (s.setPartition t.partition p).Covers := by
  intro name
  rw [schema_setPartition, ← hs name]
  show (s.partitions.insert t.partition p).contains name = true ↔ _
  rw [NameMap.contains_insert_iff]
  constructor
  · rintro (rfl | hold)
    · exact (hs t.partition).mpr ⟨t, ht, rfl⟩
    · exact hold
  · exact .inr

theorem covers_cleared (hs : s.Covers) : s.cleared.Covers := by
  intro name
  show (s.partitions.map fun _ _ => Partition.empty).contains name = true ↔ _
  rw [NameMap.contains_map]
  exact hs name

theorem covers_loadPartition (hs : s.Covers) (name : String) (records : NameMap Record) :
    (s.loadPartition name records).Covers := by
  unfold loadPartition
  split
  · rename_i t ht
    obtain rfl := Schema.partition_of_typeOfPartition? ht
    exact covers_setPartition hs (Schema.mem_toList_of_typeOfPartition? ht) _
  · exact hs

theorem covers_foldl_loadPartition (l : List (String × NameMap Record)) (hs : s.Covers) :
    (l.foldl (fun s e => s.loadPartition e.1 e.2) s).Covers := by
  induction l generalizing s with
  | nil => exact hs
  | cons e rest ih => exact ih (covers_loadPartition hs e.1 e.2)

theorem covers_load {d : Dataset} (hs : s.Covers) (h : s.load d = .ok s') : s'.Covers := by
  obtain ⟨_, counter, _, rfl⟩ := load_eq_ok_iff.mp h
  -- the counter has no part in what a store covers
  have hcounter : ({ s with counter := counter } : Store).Covers := hs
  exact covers_foldl_loadPartition d.partitions.entries hcounter

theorem covers_remove {typeName key : String} (hs : s.Covers)
    (h : s.remove typeName key = .ok s') : s'.Covers := by
  obtain ⟨t, ht, rfl⟩ := remove_eq_ok_iff.mp h
  split
  · exact covers_setPartition hs (Schema.mem_toList_of_resolve ht) _
  · exact hs

/-- No operation adds a partition to a store or drops one. -/
theorem covers_perform {op : Operation} (hs : s.Covers) (h : s.perform op = .ok s') :
    s'.Covers := by
  cases op with
  | put e =>
    obtain ⟨saved, hput, rfl⟩ := perform_put_eq_ok_iff.mp h
    obtain ⟨t, counter, ht, _, hstore⟩ := put_eq_ok_iff.mp hput
    have hcounter : ({ s with counter := counter } : Store).Covers := hs
    rw [hstore]
    exact covers_setPartition hcounter (Schema.mem_toList_of_resolve ht) _
  | remove typeName key => exact covers_remove hs h
  | removeEntity e =>
    rcases removeEntity_eq_ok_iff.mp h with ⟨key, _, hremove⟩ | ⟨_, _, rfl⟩
    · exact covers_remove hs hremove
    · exact hs
  | load d => exact covers_load hs h
  | reset d => exact covers_load (covers_cleared hs) h

theorem covers_after (hs : s.Covers) (op : Operation) : (s.after op).Covers := by
  unfold after
  split
  · rename_i s' h
    exact covers_perform hs h
  · exact hs

/-- A store that covers its schema does so after any run. -/
theorem covers_run (hs : s.Covers) (ops : List Operation) : (s.run ops).Covers := by
  induction ops generalizing s with
  | nil => exact hs
  | cons op ops ih => exact ih (covers_after hs op)

/-! ## Queries -/

/-- Every record of an answer is in the partition of the type that was asked for. -/
theorem exists_get?_of_mem_query {typeName : String} {c : Option Criterion} {records : List Record}
    (h : s.query typeName c = .ok records) :
    ∃ t, s.schema.resolve typeName = .ok t ∧
      ∀ r ∈ records, ∃ key, (s.partition t.partition).get? key = some r := by
  obtain ⟨t, ht, hquery⟩ := bind_eq_ok_iff.mp h
  obtain ⟨predicate, _, hfound⟩ := bind_eq_ok_iff.mp hquery
  obtain rfl := Except.ok.inj hfound
  refine ⟨t, ht, ?_⟩
  intro r hr
  have hmem : r ∈ (s.partition t.partition).records := (List.mem_filter.mp hr).1
  obtain ⟨⟨key, r⟩, hentry, rfl⟩ := List.mem_map.mp hmem
  exact ⟨key, Partition.mem_entries_iff.mp hentry⟩

/-- After a typed run, with no partition shared, every record of an answer has the shape of the type
that was asked for. -/
theorem hasShape_of_query (hunshared : schema.Unshared) (htyped : ∀ op ∈ ops, op.IsTyped schema)
    {typeName : String} {c : Option Criterion} {records : List Record}
    (h : ((empty schema).run ops).query typeName c = .ok records) :
    ∃ t, schema.resolve typeName = .ok t ∧ ∀ r ∈ records, r.HasShape t := by
  obtain ⟨t, ht, hstored⟩ := exists_get?_of_mem_query h
  have hschema : ((empty schema).run ops).schema = schema := schema_run (empty schema) ops
  rw [hschema] at ht
  refine ⟨t, ht, ?_⟩
  intro r hr
  obtain ⟨key, hlookup⟩ := hstored r hr
  obtain ⟨u, hu, hshape⟩ := hasShape_run hunshared htyped t.partition key r hlookup
  have hself := hunshared.typeOfPartition?_of_mem (Schema.mem_toList_of_resolve ht)
  obtain rfl : t = u := Option.some.inj (hself.symm.trans hu)
  exact hshape

end RecordStore.Store
