/-
# RecordStore.Proofs.Store.Laws — what each operation on a store does.

One law for each operation: when it succeeds, and what the store then holds in every partition.
Later modules use these laws and do not open the operations again.

A partition is looked at through two views, the record under a key and the keys in visiting order.
For a whole dataset both views are given by `get?_loadRecords` and `keys_loadRecords`: a key of the
dataset has its new record, keys that were there keep their places, and the new ones follow in the
order of the dataset, which is ascending.
-/
import RecordStore.Store

namespace RecordStore.Store

/-- The partitions of a store are known from which of them there are and from what each one holds. -/
theorem ext_partitions {s s' : Store}
    (hkept : ∀ name, s.partitions.contains name = s'.partitions.contains name)
    (h : ∀ name, s.partition name = s'.partition name) : s.partitions = s'.partitions := by
  apply NameMap.ext_get?
  intro name
  have hkept := hkept name
  have hsame := h name
  unfold Store.partition at hsame
  unfold NameMap.contains at hkept
  -- both have the partition, which is then the one that is looked at, or neither has
  cases hp : s.partitions.get? name with
  | none => cases hq : s'.partitions.get? name <;> simp_all
  | some p => cases hq : s'.partitions.get? name <;> simp_all

/-! ## Reading -/

section Reading

variable {s : Store} {typeName : String} {t : EntityType}

theorem get_of_resolve (ht : s.schema.resolve typeName = .ok t) (key : String) :
    s.get typeName key = .ok ((s.partition t.partition).get? key) := by
  rw [get, ht]
  rfl

theorem count_of_resolve (ht : s.schema.resolve typeName = .ok t) :
    s.count typeName = .ok (s.partition t.partition).size := by
  rw [count, ht]
  rfl

/-- A criterion is compiled for the type before any record is looked at. -/
theorem query_of_resolve (ht : s.schema.resolve typeName = .ok t) (c : Option Criterion) :
    s.query typeName c = (Predicate.ofCriterion? t c).map fun predicate =>
      (s.partition t.partition).records.filter predicate.matchesRecord := by
  rw [query, ht]
  show (Predicate.ofCriterion? t c >>= fun _ => _) = _
  cases Predicate.ofCriterion? t c with
  | error cause => rfl
  | ok predicate => rfl

/-- Without a criterion every record is admitted. -/
theorem query_none_of_resolve (ht : s.schema.resolve typeName = .ok t) :
    s.query typeName none = .ok (s.partition t.partition).records := by
  have hall : (s.partition t.partition).records.filter Predicate.always.matchesRecord =
      (s.partition t.partition).records := List.filter_eq_self.mpr fun _ _ => rfl
  rw [query_of_resolve ht]
  exact congrArg Except.ok hall

end Reading

/-! ## Keys -/

/-- A key is claimed by moving the counter past the number that it writes, if it writes one. -/
theorem claimKey_eq_ok_iff {counter counter' : KeyCounter} {key : String} :
    claimKey counter key = .ok counter' ↔
      (KeyCounter.number? key = none ∧ counter' = counter) ∨
        ∃ number, KeyCounter.number? key = some number ∧
          counter.advancePast? number = some counter' := by
  unfold claimKey
  split
  · rename_i hnone
    simp [hnone, eq_comm]
  · rename_i number hnumber
    simp only [hnumber, reduceCtorEq, false_and, false_or, Option.some.injEq, exists_eq_left']
    split <;> simp_all

/-- A key is refused when it writes a number that leaves no room for generated keys. -/
theorem claimKey_eq_error_iff {counter : KeyCounter} {key : String} {cause : Error} :
    claimKey counter key = .error cause ↔
      ∃ number, KeyCounter.number? key = some number ∧ 2 ^ 64 - 2 ≤ number.toNat ∧
        cause = .invalidRecord (.keyTooLarge key) := by
  unfold claimKey
  split
  · rename_i hnone
    simp [hnone]
  · rename_i number hnumber
    simp only [hnumber, Option.some.injEq, exists_eq_left']
    rw [← KeyCounter.advancePast?_eq_none_iff (c := counter)]
    cases counter.advancePast? number with
    | some counter' => simp
    | none => simp [eq_comm]

/-- An entity keeps the key it has; one without a key is given the next generated key. -/
theorem assignKey_eq_ok_iff {counter counter' : KeyCounter} {e e' : Entity} {key : String} :
    assignKey counter e = .ok (key, e', counter') ↔
      (e.key = .ok (some key) ∧ e' = e ∧ claimKey counter key = .ok counter') ∨
        (e.key = .ok none ∧ key = counter.issue.1 ∧ e' = e.setKey key ∧
          counter' = counter.issue.2) := by
  unfold assignKey
  rw [bind_eq_ok_iff]
  constructor
  · rintro ⟨found, hfound, h⟩
    cases found with
    | some own =>
      obtain ⟨c, hc, h⟩ := bind_eq_ok_iff.mp h
      cases h
      exact .inl ⟨hfound, rfl, hc⟩
    | none =>
      cases h
      exact .inr ⟨hfound, rfl, rfl, rfl⟩
  · rintro (⟨hkey, rfl, hclaim⟩ | ⟨hkey, rfl, rfl, rfl⟩)
    · exact ⟨some key, hkey, bind_eq_ok_iff.mpr ⟨counter', hclaim, rfl⟩⟩
    · exact ⟨none, hkey, rfl⟩

/-- No key is assigned where the key field cannot hold one, or holds one that is refused. -/
theorem assignKey_eq_error_iff {counter : KeyCounter} {e : Entity} {cause : Error} :
    assignKey counter e = .error cause ↔
      e.key = .error cause ∨
        ∃ key, e.key = .ok (some key) ∧ claimKey counter key = .error cause := by
  unfold assignKey
  rw [bind_eq_error_iff]
  refine or_congr_right ?_
  constructor
  · rintro ⟨found, hfound, h⟩
    cases found with
    | some own =>
      refine ⟨own, hfound, ?_⟩
      rcases bind_eq_error_iff.mp h with hclaim | ⟨c, _, h⟩
      · exact hclaim
      · cases h
    | none => cases h
  · rintro ⟨key, hkey, hclaim⟩
    exact ⟨some key, hkey, bind_eq_error_iff.mpr (.inl hclaim)⟩

/-! ## Single entities -/

theorem put_eq_ok_iff {s : Store} {e : Entity} {saved : Saved} :
    s.put e = .ok saved ↔
      ∃ t counter, s.schema.resolve e.typeName = .ok t ∧
        assignKey s.counter e = .ok (saved.key, saved.entity, counter) ∧
        saved.store = { s with counter := counter }.setPartition t.partition
          ((s.partition t.partition).insert saved.key saved.entity.persisted) := by
  unfold put
  simp only [bind_eq_ok_iff]
  constructor
  · rintro ⟨t, ht, ⟨key, e', counter⟩, hassign, h⟩
    cases h
    exact ⟨t, counter, ht, hassign, rfl⟩
  · rintro ⟨t, counter, ht, hassign, hstore⟩
    refine ⟨t, ht, _, hassign, ?_⟩
    exact congrArg (fun s' => Except.ok (Saved.mk saved.key saved.entity s')) hstore.symm

theorem put_eq_error_iff {s : Store} {e : Entity} {cause : Error} :
    s.put e = .error cause ↔
      s.schema.resolve e.typeName = .error cause ∨
        ∃ t, s.schema.resolve e.typeName = .ok t ∧ assignKey s.counter e = .error cause := by
  unfold put
  simp only [bind_eq_error_iff]
  refine or_congr_right (exists_congr fun t => and_congr_right fun _ => ?_)
  constructor
  · rintro (hassign | ⟨assigned, _, h⟩)
    · exact hassign
    · cases h
  · exact .inl

/-- Removing succeeds exactly for the types of the schema. -/
theorem remove_eq_ok_iff {s s' : Store} {typeName key : String} :
    s.remove typeName key = .ok s' ↔
      ∃ t, s.schema.resolve typeName = .ok t ∧
        s' = match s.partitions.get? t.partition with
          | some p => s.setPartition t.partition (p.erase key)
          | none => s := by
  unfold remove
  rw [bind_eq_ok_iff]
  refine exists_congr fun t => and_congr_right fun _ => ?_
  exact ⟨fun h => (Except.ok.inj h).symm, fun h => congrArg Except.ok h.symm⟩

/-- Removing is refused only where the type is not known. -/
theorem remove_eq_error_iff {s : Store} {typeName key : String} {cause : Error} :
    s.remove typeName key = .error cause ↔ s.schema.resolve typeName = .error cause := by
  unfold remove
  rw [bind_eq_error_iff]
  constructor
  · rintro (h | ⟨t, _, h⟩)
    · exact h
    · cases h
  · exact .inl

theorem schema_of_remove {s s' : Store} {typeName key : String}
    (h : s.remove typeName key = .ok s') : s'.schema = s.schema := by
  obtain ⟨t, _, rfl⟩ := remove_eq_ok_iff.mp h
  split <;> rfl

theorem counter_of_remove {s s' : Store} {typeName key : String}
    (h : s.remove typeName key = .ok s') : s'.counter = s.counter := by
  obtain ⟨t, _, rfl⟩ := remove_eq_ok_iff.mp h
  split <;> rfl

theorem partition_of_remove {s s' : Store} {typeName key : String} {t : EntityType}
    (h : s.remove typeName key = .ok s') (ht : s.schema.resolve typeName = .ok t) (name : String) :
    s'.partition name =
      if name = t.partition then (s.partition name).erase key else s.partition name := by
  obtain ⟨u, hu, rfl⟩ := remove_eq_ok_iff.mp h
  obtain rfl : t = u := Except.ok.inj (ht.symm.trans hu)
  split
  · rename_i p hp
    rw [partition_setPartition]
    split
    · rename_i hname
      rw [hname, partition, hp]
      rfl
    · rfl
  · rename_i hp
    split
    · -- a partition that the store does not have is empty with or without the key
      rename_i hname
      rw [hname, partition, hp]
      rfl
    · rfl

/-- Removing an entity is removing what its key names; an entity without a key names nothing. -/
theorem removeEntity_eq_ok_iff {s s' : Store} {e : Entity} :
    s.removeEntity e = .ok s' ↔
      (∃ key, e.key = .ok (some key) ∧ s.remove e.typeName key = .ok s') ∨
        (e.key = .ok none ∧ (∃ t, s.schema.resolve e.typeName = .ok t) ∧ s' = s) := by
  unfold removeEntity
  rw [bind_eq_ok_iff]
  constructor
  · rintro ⟨found, hfound, h⟩
    cases found with
    | some key => exact .inl ⟨key, hfound, h⟩
    | none =>
      obtain ⟨t, ht, h⟩ := bind_eq_ok_iff.mp h
      cases h
      exact .inr ⟨hfound, ⟨t, ht⟩, rfl⟩
  · rintro (⟨key, hkey, h⟩ | ⟨hkey, ⟨t, ht⟩, rfl⟩)
    · exact ⟨some key, hkey, h⟩
    · exact ⟨none, hkey, bind_eq_ok_iff.mpr ⟨t, ht, rfl⟩⟩

/-! ## Records of a dataset -/

/-- Of several records inserted one after another under different keys each is found again. -/
theorem get?_foldl_insert (f : String → Record → Record) {l : List (String × Record)}
    (hl : (l.map Prod.fst).Nodup) (p : Partition) (key : String) :
    (l.foldl (fun p e => p.insert e.1 (f e.1 e.2)) p).get? key =
      ((Entries.get? key l).map (f key)).or (p.get? key) := by
  induction l generalizing p with
  | nil => rfl
  | cons e rest ih =>
    obtain ⟨hhead, htail⟩ := List.nodup_cons.mp hl
    rw [List.foldl_cons, ih htail, Partition.get?_insert, Entries.get?]
    by_cases hk : key = e.1
    · subst hk
      rw [Entries.get?_eq_none_iff.mpr hhead]
      simp
    · simp [hk]

/-- Inserting records one after another leaves the old keys in their places and adds the new ones in
the order in which they come. -/
theorem keys_foldl_insert (f : String → Record → Record) {l : List (String × Record)}
    (hl : (l.map Prod.fst).Nodup) (p : Partition) :
    (l.foldl (fun p e => p.insert e.1 (f e.1 e.2)) p).keys =
      p.keys ++ (l.map Prod.fst).filter (fun k => k ∉ p.keys) := by
  induction l generalizing p with
  | nil => simp
  | cons e rest ih =>
    obtain ⟨hhead, htail⟩ := List.nodup_cons.mp hl
    rw [List.foldl_cons, ih htail, Partition.keys_insert]
    split
    · rename_i hold
      simp [hold]
    · rename_i hnew
      -- the keys still to come differ from this one, so it does not make any of them old
      have hrest : (rest.map Prod.fst).filter (fun k => k ∉ p.keys ++ [e.1]) =
          (rest.map Prod.fst).filter (fun k => k ∉ p.keys) := by
        refine List.filter_congr fun k hk => ?_
        have hne : k ≠ e.1 := fun heq => hhead (heq ▸ hk)
        simp [hne]
      rw [hrest]
      simp [hnew]

theorem get?_loadRecords (t : EntityType) (records : NameMap Record) (p : Partition)
    (key : String) :
    (loadRecords t records p).get? key =
      ((records.get? key).map (loadedRecord t key)).or (p.get? key) :=
  get?_foldl_insert (loadedRecord t) (NameMap.nodup_of_ascending records.ascending) p key

theorem keys_loadRecords (t : EntityType) (records : NameMap Record) (p : Partition) :
    (loadRecords t records p).keys = p.keys ++ records.names.filter (fun k => k ∉ p.keys) :=
  keys_foldl_insert (loadedRecord t) (NameMap.nodup_of_ascending records.ascending) p

/-! ## Partitions of a dataset -/

/-- The store with the records of a dataset added, partition by partition. -/
def withRecords (s : Store) (d : Dataset) : Store :=
  d.partitions.entries.foldl (fun s e => s.loadPartition e.1 e.2) s

@[simp] theorem schema_loadPartition (s : Store) (name : String) (records : NameMap Record) :
    (s.loadPartition name records).schema = s.schema := by
  unfold loadPartition
  split <;> rfl

@[simp] theorem counter_loadPartition (s : Store) (name : String) (records : NameMap Record) :
    (s.loadPartition name records).counter = s.counter := by
  unfold loadPartition
  split <;> rfl

theorem partition_loadPartition_self (s : Store) (name : String) (records : NameMap Record) :
    (s.loadPartition name records).partition name =
      match s.schema.typeOfPartition? name with
      | some t => loadRecords t records (s.partition name)
      | none => s.partition name := by
  unfold loadPartition
  cases s.schema.typeOfPartition? name with
  | some t => simp [partition_setPartition]
  | none => rfl

theorem partition_loadPartition_of_ne (s : Store) {name other : String}
    (records : NameMap Record) (h : other ≠ name) :
    (s.loadPartition name records).partition other = s.partition other := by
  unfold loadPartition
  split <;> simp [partition_setPartition, h]

theorem schema_foldl_loadPartition (l : List (String × NameMap Record)) (s : Store) :
    (l.foldl (fun s e => s.loadPartition e.1 e.2) s).schema = s.schema := by
  induction l generalizing s with
  | nil => rfl
  | cons e rest ih => rw [List.foldl_cons, ih, schema_loadPartition]

theorem counter_foldl_loadPartition (l : List (String × NameMap Record)) (s : Store) :
    (l.foldl (fun s e => s.loadPartition e.1 e.2) s).counter = s.counter := by
  induction l generalizing s with
  | nil => rfl
  | cons e rest ih => rw [List.foldl_cons, ih, counter_loadPartition]

/-- A partition is changed by the one entry of a dataset that names it, if there is one. -/
theorem partition_foldl_loadPartition {l : List (String × NameMap Record)}
    (hl : (l.map Prod.fst).Nodup) (s : Store) (name : String) :
    (l.foldl (fun s e => s.loadPartition e.1 e.2) s).partition name =
      match Entries.get? name l with
      | some records => (s.loadPartition name records).partition name
      | none => s.partition name := by
  induction l generalizing s with
  | nil => rfl
  | cons e rest ih =>
    obtain ⟨hhead, htail⟩ := List.nodup_cons.mp hl
    rw [List.foldl_cons, ih htail, Entries.get?]
    by_cases hn : name = e.1
    · subst hn
      rw [Entries.get?_eq_none_iff.mpr hhead, if_pos rfl]
    · have hsame : (s.loadPartition e.1 e.2).partition name = s.partition name :=
        partition_loadPartition_of_ne s e.2 hn
      rw [if_neg hn]
      split <;> simp only [partition_loadPartition_self, schema_loadPartition, hsame]

@[simp] theorem schema_withRecords (s : Store) (d : Dataset) :
    (s.withRecords d).schema = s.schema :=
  schema_foldl_loadPartition _ _

@[simp] theorem counter_withRecords (s : Store) (d : Dataset) :
    (s.withRecords d).counter = s.counter :=
  counter_foldl_loadPartition _ _

theorem partition_withRecords_of_some {s : Store} {d : Dataset} {name : String}
    {records : NameMap Record} {t : EntityType} (hd : d.partitions.get? name = some records)
    (ht : s.schema.typeOfPartition? name = some t) :
    (s.withRecords d).partition name = loadRecords t records (s.partition name) := by
  rw [withRecords,
    partition_foldl_loadPartition (NameMap.nodup_of_ascending d.partitions.ascending)]
  show (match d.partitions.get? name with
    | some records => (s.loadPartition name records).partition name
    | none => s.partition name) = _
  simp only [hd, partition_loadPartition_self, ht]

theorem partition_withRecords_of_none {s : Store} {d : Dataset} {name : String}
    (hd : d.partitions.get? name = none) :
    (s.withRecords d).partition name = s.partition name := by
  rw [withRecords,
    partition_foldl_loadPartition (NameMap.nodup_of_ascending d.partitions.ascending)]
  show (match d.partitions.get? name with
    | some records => (s.loadPartition name records).partition name
    | none => s.partition name) = _
  simp only [hd]

/-! ## Loading -/

/-- The keys of a dataset are claimed by moving the counter past the largest number among them. -/
theorem claimKeys_eq_ok_iff {counter counter' : KeyCounter} {d : Dataset} :
    claimKeys counter d = .ok counter' ↔
      (d.largestKey? = none ∧ counter' = counter) ∨
        ∃ largest, d.largestKey? = some largest ∧
          counter.advancePast? largest = some counter' := by
  unfold claimKeys
  split
  · rename_i hnone
    simp [hnone, eq_comm]
  · rename_i largest hlargest
    simp only [hlargest, reduceCtorEq, false_and, false_or, Option.some.injEq, exists_eq_left']
    split <;> simp_all

/-- A dataset is loaded when every partition that it names is used by a type and its keys leave room
for generated keys. -/
theorem load_eq_ok_iff {s s' : Store} {d : Dataset} :
    s.load d = .ok s' ↔
      (∀ name ∈ d.partitions.names, s.schema.hasPartition name = true) ∧
        ∃ counter, claimKeys s.counter d = .ok counter ∧
          s' = { s with counter := counter }.withRecords d := by
  unfold load
  split
  · rename_i unknown hfind
    constructor
    · intro h
      cases h
    · rintro ⟨hknown, _⟩
      have hmem := List.mem_of_find?_eq_some hfind
      have hlacks := List.find?_some hfind
      simp [hknown unknown hmem] at hlacks
  · rename_i hfind
    have hknown : ∀ name ∈ d.partitions.names, s.schema.hasPartition name = true := by
      intro name hname
      simpa using List.find?_eq_none.mp hfind name hname
    rw [bind_eq_ok_iff]
    constructor
    · rintro ⟨counter, hclaim, h⟩
      exact ⟨hknown, counter, hclaim, (Except.ok.inj h).symm⟩
    · rintro ⟨_, counter, hclaim, rfl⟩
      exact ⟨counter, hclaim, rfl⟩

/-- A dataset is refused for the first partition that no type uses, and only otherwise for its
keys. -/
theorem load_eq_error_iff {s : Store} {d : Dataset} {cause : Error} :
    s.load d = .error cause ↔
      (∃ name, d.partitions.names.find? (fun name => !s.schema.hasPartition name) = some name ∧
        cause = .invalidDataset (.unstoredPartition name)) ∨
      (d.partitions.names.find? (fun name => !s.schema.hasPartition name) = none ∧
        claimKeys s.counter d = .error cause) := by
  unfold load
  split
  · rename_i unknown hfind
    simp [hfind, eq_comm]
  · rename_i hfind
    rw [bind_eq_error_iff]
    constructor
    · rintro (hclaim | ⟨counter, _, h⟩)
      · exact .inr ⟨hfind, hclaim⟩
      · cases h
    · rintro (⟨name, hname, _⟩ | ⟨_, hclaim⟩)
      · cases hfind.symm.trans hname
      · exact .inl hclaim

theorem schema_of_load {s s' : Store} {d : Dataset} (h : s.load d = .ok s') :
    s'.schema = s.schema := by
  obtain ⟨_, counter, _, rfl⟩ := load_eq_ok_iff.mp h
  rw [schema_withRecords]

@[simp] theorem schema_cleared (s : Store) : s.cleared.schema = s.schema := rfl

end RecordStore.Store
