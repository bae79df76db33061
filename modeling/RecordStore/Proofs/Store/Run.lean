/-
# RecordStore.Proofs.Store.Run — runs of operations on one store.

A run is a list of operations, each asked of the store that the earlier ones have left.  An
operation that is refused leaves the store as it is (`after`).

What an operation does to the keys of the partitions is said by two relations that do not mention
the contents of the store: `Erases`, the keys that it takes away, and `Writes`, the records that it
puts under keys.  Erasing comes first, so a `reset` erases everything and then writes its dataset.
`updated_after` says that every partition changes by just these two relations.
-/
import RecordStore.Proofs.Store.Laws

namespace RecordStore

/-- What a caller may ask a store to change. -/
inductive Operation where
  | put (e : Entity)
  | remove (typeName key : String)
  | removeEntity (e : Entity)
  | load (d : Dataset)
  | reset (d : Dataset)

namespace Store

/-- The store that a successful operation gives. -/
def perform (s : Store) : Operation → Except Error Store
  | .put e => (s.put e).map Saved.store
  | .remove typeName key => s.remove typeName key
  | .removeEntity e => s.removeEntity e
  | .load d => s.load d
  | .reset d => s.reset d

/-- The store after an operation, which is the same store when the operation is refused. -/
def after (s : Store) (op : Operation) : Store :=
  match s.perform op with
  | .ok s' => s'
  | .error _ => s

/-- The store after a run of operations. -/
def run (s : Store) (ops : List Operation) : Store := ops.foldl after s

theorem perform_put_eq_ok_iff {s s' : Store} {e : Entity} :
    s.perform (.put e) = .ok s' ↔ ∃ saved, s.put e = .ok saved ∧ saved.store = s' := by
  cases h : s.put e <;> simp [perform, h, Except.map]

theorem schema_of_perform {s s' : Store} {op : Operation} (h : s.perform op = .ok s') :
    s'.schema = s.schema := by
  cases op with
  | put e =>
    obtain ⟨saved, hput, rfl⟩ := perform_put_eq_ok_iff.mp h
    obtain ⟨t, counter, _, _, hstore⟩ := put_eq_ok_iff.mp hput
    rw [hstore, schema_setPartition]
  | remove typeName key => exact schema_of_remove h
  | removeEntity e =>
    rcases removeEntity_eq_ok_iff.mp h with ⟨key, _, hremove⟩ | ⟨_, _, rfl⟩
    · exact schema_of_remove hremove
    · rfl
  | load d => exact schema_of_load h
  | reset d => exact (schema_of_load h).trans (schema_cleared s)

theorem schema_after (s : Store) (op : Operation) : (s.after op).schema = s.schema := by
  unfold after
  split
  · rename_i s' h
    exact schema_of_perform h
  · rfl

theorem schema_run (s : Store) (ops : List Operation) : (s.run ops).schema = s.schema := by
  induction ops generalizing s with
  | nil => rfl
  | cons op ops ih => exact (ih (s.after op)).trans (schema_after s op)

/-! ## What an operation writes and erases -/

/-- The record that an operation puts under a key of a partition.  A refused operation writes
nothing. -/
inductive Writes (s : Store) : Operation → String → String → Record → Prop where
  | put {e : Entity} {t : EntityType} {saved : Saved}
      (ht : s.schema.resolve e.typeName = .ok t) (h : s.put e = .ok saved) :
      Writes s (.put e) t.partition saved.key saved.entity.persisted
  | load {d : Dataset} {s' : Store} {t : EntityType} {name key : String} {r : Record}
      (h : s.load d = .ok s') (ht : s.schema.typeOfPartition? name = some t)
      (hr : d.get? name key = some r) :
      Writes s (.load d) name key (loadedRecord t key r)
  | reset {d : Dataset} {s' : Store} {t : EntityType} {name key : String} {r : Record}
      (h : s.reset d = .ok s') (ht : s.schema.typeOfPartition? name = some t)
      (hr : d.get? name key = some r) :
      Writes s (.reset d) name key (loadedRecord t key r)

/-- The keys of a partition that an operation takes away before it writes.  A refused operation
erases nothing. -/
inductive Erases (s : Store) : Operation → String → String → Prop where
  | remove {typeName key : String} {t : EntityType} (ht : s.schema.resolve typeName = .ok t) :
      Erases s (.remove typeName key) t.partition key
  | removeEntity {e : Entity} {key : String} {t : EntityType}
      (ht : s.schema.resolve e.typeName = .ok t) (hkey : e.key = .ok (some key)) :
      Erases s (.removeEntity e) t.partition key
  | reset {d : Dataset} {s' : Store} {name key : String} (h : s.reset d = .ok s') :
      Erases s (.reset d) name key

theorem writes_put_iff {s : Store} {e : Entity} {t : EntityType} {saved : Saved}
    (ht : s.schema.resolve e.typeName = .ok t) (h : s.put e = .ok saved) {name key : String}
    {r : Record} :
    Writes s (.put e) name key r ↔
      name = t.partition ∧ key = saved.key ∧ r = saved.entity.persisted := by
  constructor
  · intro hw
    obtain ⟨ht', h'⟩ := hw
    obtain rfl := Except.ok.inj (ht.symm.trans ht')
    obtain rfl := Except.ok.inj (h.symm.trans h')
    exact ⟨rfl, rfl, rfl⟩
  · rintro ⟨rfl, rfl, rfl⟩
    exact .put ht h

theorem writes_load_iff {s s' : Store} {d : Dataset} (h : s.load d = .ok s') {name key : String}
    {r : Record} :
    Writes s (.load d) name key r ↔
      ∃ t given, s.schema.typeOfPartition? name = some t ∧ d.get? name key = some given ∧
        loadedRecord t key given = r := by
  constructor
  · intro hw
    cases hw with
    | load _ ht hr => exact ⟨_, _, ht, hr, rfl⟩
  · rintro ⟨t, given, ht, hr, rfl⟩
    exact .load h ht hr

theorem writes_reset_iff {s s' : Store} {d : Dataset} (h : s.reset d = .ok s') {name key : String}
    {r : Record} :
    Writes s (.reset d) name key r ↔
      ∃ t given, s.schema.typeOfPartition? name = some t ∧ d.get? name key = some given ∧
        loadedRecord t key given = r := by
  constructor
  · intro hw
    cases hw with
    | reset _ ht hr => exact ⟨_, _, ht, hr, rfl⟩
  · rintro ⟨t, given, ht, hr, rfl⟩
    exact .reset h ht hr

theorem erases_remove_iff {s : Store} {typeName key : String} {t : EntityType}
    (ht : s.schema.resolve typeName = .ok t) {name k : String} :
    Erases s (.remove typeName key) name k ↔ name = t.partition ∧ k = key := by
  constructor
  · intro he
    cases he with
    | remove ht' =>
      obtain rfl := Except.ok.inj (ht.symm.trans ht')
      exact ⟨rfl, rfl⟩
  · rintro ⟨rfl, rfl⟩
    exact .remove ht

theorem erases_removeEntity_iff {s : Store} {e : Entity} {t : EntityType}
    (ht : s.schema.resolve e.typeName = .ok t) {name k : String} :
    Erases s (.removeEntity e) name k ↔ name = t.partition ∧ e.key = .ok (some k) := by
  constructor
  · intro he
    cases he with
    | removeEntity ht' hkey =>
      obtain rfl := Except.ok.inj (ht.symm.trans ht')
      exact ⟨rfl, hkey⟩
  · rintro ⟨rfl, hkey⟩
    exact .removeEntity ht hkey

/-- What is refused neither writes nor erases. -/
theorem perform_of_writes {s : Store} {op : Operation} {name key : String} {r : Record}
    (h : Writes s op name key r) : ∃ s', s.perform op = .ok s' := by
  cases h with
  | put ht h => exact ⟨_, perform_put_eq_ok_iff.mpr ⟨_, h, rfl⟩⟩
  | load h ht hr => exact ⟨_, h⟩
  | reset h ht hr => exact ⟨_, h⟩

theorem perform_of_erases {s : Store} {op : Operation} {name key : String}
    (h : Erases s op name key) : ∃ s', s.perform op = .ok s' := by
  cases h with
  | remove ht => exact ⟨_, remove_eq_ok_iff.mpr ⟨_, ht, rfl⟩⟩
  | removeEntity ht hkey =>
    exact ⟨_, removeEntity_eq_ok_iff.mpr (.inl ⟨key, hkey, remove_eq_ok_iff.mpr ⟨_, ht, rfl⟩⟩)⟩
  | reset h => exact ⟨_, h⟩

end Store

/-! ## How a partition changes -/

namespace Partition

/-- The partition `q` is `p` without the erased keys and then with the written records: kept keys
stay in their order, and new ones follow in ascending order. -/
structure Updated (p q : Partition) (erased : String → Prop)
    (written : String → Record → Prop) : Prop where
  lookup : ∀ key r, q.get? key = some r ↔
    written key r ∨ (∀ r', ¬ written key r') ∧ ¬ erased key ∧ p.get? key = some r
  order : ∃ kept fresh, q.keys = kept ++ fresh ∧ kept.Sublist p.keys ∧
    (∀ key, key ∈ kept ↔ key ∈ p.keys ∧ ¬ erased key) ∧ fresh.Pairwise (· < ·)

variable {p q : Partition} {erased : String → Prop} {written : String → Record → Prop}

/-- An update in two steps: `rest` is what erasing leaves, and writing makes `q` of it. -/
theorem updated_of_rest (rest : Partition)
    (hrest : ∀ key r, rest.get? key = some r ↔ ¬ erased key ∧ p.get? key = some r)
    (hsub : rest.keys.Sublist p.keys)
    (hlookup : ∀ key r, q.get? key = some r ↔
      written key r ∨ (∀ r', ¬ written key r') ∧ rest.get? key = some r)
    (hkeys : ∃ fresh, q.keys = rest.keys ++ fresh ∧ fresh.Pairwise (· < ·)) :
    p.Updated q erased written := by
  obtain ⟨fresh, hq, hfresh⟩ := hkeys
  have hkept : ∀ key, key ∈ rest.keys ↔ key ∈ p.keys ∧ ¬ erased key := by
    intro key
    rw [mem_keys_iff, mem_keys_iff]
    constructor
    · rintro ⟨r, hr⟩
      exact ⟨⟨r, ((hrest key r).mp hr).2⟩, ((hrest key r).mp hr).1⟩
    · rintro ⟨⟨r, hr⟩, hne⟩
      exact ⟨r, (hrest key r).mpr ⟨hne, hr⟩⟩
  refine ⟨?_, rest.keys, fresh, hq, hsub, hkept, hfresh⟩
  intro key r
  rw [hlookup, hrest]

/-- Without erased keys and written records a partition stays as it is. -/
theorem updated_self (he : ∀ key, ¬ erased key) (hw : ∀ key r, ¬ written key r) :
    p.Updated p erased written := by
  have hrest : ∀ key r, p.get? key = some r ↔ ¬ erased key ∧ p.get? key = some r := by
    intro key r
    simp [he]
  have hlookup : ∀ key r, p.get? key = some r ↔
      written key r ∨ (∀ r', ¬ written key r') ∧ p.get? key = some r := by
    intro key r
    simp [hw]
  exact updated_of_rest p hrest (List.Sublist.refl _) hlookup
    ⟨[], (List.append_nil _).symm, List.Pairwise.nil⟩

theorem updated_insert {key : String} {r : Record} (he : ∀ k, ¬ erased k)
    (hw : ∀ k r', written k r' ↔ k = key ∧ r' = r) :
    p.Updated (p.insert key r) erased written := by
  apply updated_of_rest p
  · intro k r'
    simp [he]
  · exact List.Sublist.refl _
  · intro k r'
    rw [get?_insert]
    by_cases hk : k = key <;> simp [hw, hk, eq_comm]
  · -- a key that was there keeps its place, and a new one is the only fresh key
    rw [keys_insert]
    split
    · exact ⟨[], (List.append_nil _).symm, List.Pairwise.nil⟩
    · exact ⟨[key], rfl, List.pairwise_singleton _ _⟩

theorem updated_erase {key : String} (he : ∀ k, erased k ↔ k = key)
    (hw : ∀ k r, ¬ written k r) : p.Updated (p.erase key) erased written := by
  apply updated_of_rest (p.erase key)
  · intro k r
    rw [get?_erase, he]
    by_cases hk : k = key <;> simp [hk]
  · rw [keys_erase]
    exact List.filter_sublist
  · intro k r
    simp [hw]
  · exact ⟨[], (List.append_nil _).symm, List.Pairwise.nil⟩

theorem updated_loadRecords {rest : Partition} {t : EntityType} {records : NameMap Record}
    (hrest : ∀ key r, rest.get? key = some r ↔ ¬ erased key ∧ p.get? key = some r)
    (hsub : rest.keys.Sublist p.keys)
    (hw : ∀ key r, written key r ↔
      ∃ given, records.get? key = some given ∧ Store.loadedRecord t key given = r) :
    p.Updated (Store.loadRecords t records rest) erased written := by
  apply updated_of_rest rest hrest hsub
  · intro key r
    rw [Store.get?_loadRecords]
    cases hr : records.get? key <;> simp [hw, hr]
  · rw [Store.keys_loadRecords]
    exact ⟨_, rfl, records.names_ascending.filter _⟩

end Partition

namespace Store

/-- Adding a dataset to a store whose partition `name` is `rest` writes the records that the dataset
has for that partition. -/
theorem updated_withRecords {s : Store} {d : Dataset} {name : String} {p : Partition}
    {erased : String → Prop} {written : String → Record → Prop}
    (hknown : ∀ name ∈ d.partitions.names, s.schema.hasPartition name = true)
    (hrest : ∀ key r, (s.partition name).get? key = some r ↔ ¬ erased key ∧ p.get? key = some r)
    (hsub : (s.partition name).keys.Sublist p.keys)
    (hw : ∀ key r, written key r ↔ ∃ t given, s.schema.typeOfPartition? name = some t ∧
      d.get? name key = some given ∧ loadedRecord t key given = r) :
    p.Updated ((s.withRecords d).partition name) erased written := by
  cases hd : d.partitions.get? name with
  | none =>
    rw [partition_withRecords_of_none hd]
    have hnone : ∀ key r, ¬ written key r := by
      intro key r hwritten
      obtain ⟨t, given, _, hgiven, _⟩ := (hw key r).mp hwritten
      simp [Dataset.get?, hd] at hgiven
    apply Partition.updated_of_rest (s.partition name) hrest hsub
    · intro key r
      simp [hnone]
    · exact ⟨[], (List.append_nil _).symm, List.Pairwise.nil⟩
  | some records =>
    have hmem : name ∈ d.partitions.names := NameMap.mem_names_of_get? hd
    obtain ⟨t, ht⟩ := Option.isSome_iff_exists.mp (hknown name hmem)
    rw [partition_withRecords_of_some hd ht]
    apply Partition.updated_loadRecords hrest hsub
    intro key r
    simp [hw, ht, Dataset.get?, hd]

theorem updated_of_remove {s s' : Store} {typeName key : String} {t : EntityType}
    (h : s.remove typeName key = .ok s') (ht : s.schema.resolve typeName = .ok t) {name : String}
    {erased : String → Prop} {written : String → Record → Prop}
    (he : ∀ k, erased k ↔ name = t.partition ∧ k = key) (hw : ∀ k r, ¬ written k r) :
    (s.partition name).Updated (s'.partition name) erased written := by
  rw [partition_of_remove h ht]
  split
  · rename_i hname
    apply Partition.updated_erase _ hw
    intro k
    simp [he, hname]
  · rename_i hname
    apply Partition.updated_self _ hw
    intro k hk
    exact hname ((he k).mp hk).1

/-- Every partition changes by what the operation erases and then writes. -/
theorem updated_after (s : Store) (op : Operation) (name : String) :
    (s.partition name).Updated ((s.after op).partition name) (Erases s op name)
      (Writes s op name) := by
  unfold after
  split
  · rename_i s' h
    cases op with
    | put e =>
      obtain ⟨saved, hput, rfl⟩ := perform_put_eq_ok_iff.mp h
      obtain ⟨t, counter, ht, _, hstore⟩ := put_eq_ok_iff.mp hput
      have he : ∀ key, ¬ Erases s (.put e) name key := fun key he => nomatch he
      rw [hstore, partition_setPartition]
      split
      · rename_i hname
        subst hname
        apply Partition.updated_insert he
        intro key r
        rw [writes_put_iff ht hput]
        simp
      · -- the record goes to another partition
        rename_i hname
        apply Partition.updated_self he
        intro key r hw
        exact hname ((writes_put_iff ht hput).mp hw).1
    | remove typeName key =>
      obtain ⟨t, ht, _⟩ := remove_eq_ok_iff.mp h
      have hw : ∀ k r, ¬ Writes s (.remove typeName key) name k r := fun k r hw => nomatch hw
      exact updated_of_remove h ht (fun k => erases_remove_iff ht) hw
    | removeEntity e =>
      have hw : ∀ k r, ¬ Writes s (.removeEntity e) name k r := fun k r hw => nomatch hw
      rcases removeEntity_eq_ok_iff.mp h with ⟨key, hkey, hremove⟩ | ⟨hkey, ⟨t, ht⟩, rfl⟩
      · obtain ⟨t, ht, _⟩ := remove_eq_ok_iff.mp hremove
        apply updated_of_remove hremove ht _ hw
        intro k
        rw [erases_removeEntity_iff ht, hkey]
        simp [eq_comm]
      · -- an entity without a key erases nothing
        apply Partition.updated_self _ hw
        intro k he
        simp [erases_removeEntity_iff ht, hkey] at he
    | load d =>
      obtain ⟨hknown, counter, _, rfl⟩ := load_eq_ok_iff.mp h
      have he : ∀ key, ¬ Erases s (.load d) name key := fun key he => nomatch he
      refine updated_withRecords hknown ?_ ?_ ?_
      · intro key r
        simp [he, partition]
      · exact List.Sublist.refl _
      · intro key r
        exact writes_load_iff h
    | reset d =>
      obtain ⟨hknown, counter, _, rfl⟩ := load_eq_ok_iff.mp h
      -- the dataset is added to what clearing leaves, which is nothing
      have hclear : (Store.mk s.cleared.schema counter s.cleared.partitions).partition name =
          .empty := partition_cleared s name
      refine updated_withRecords hknown ?_ ?_ ?_
      · intro key r
        have he : Erases s (.reset d) name key := .reset h
        rw [hclear]
        simp [he]
      · rw [hclear]
        exact List.nil_sublist _
      · intro key r
        exact writes_reset_iff h
  · rename_i cause h
    apply Partition.updated_self
    · intro key he
      obtain ⟨s', h'⟩ := perform_of_erases he
      cases h.symm.trans h'
    · intro key r hw
      obtain ⟨s', h'⟩ := perform_of_writes hw
      cases h.symm.trans h'

end Store

end RecordStore
