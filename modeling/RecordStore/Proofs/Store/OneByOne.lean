/-
# RecordStore.Proofs.Store.OneByOne — a dataset loaded at once, and its records put one by one.

There are two ways to bring the records of a dataset into a store.  Loading checks the dataset as a
whole, moves the counter past the largest of its keys and then adds partition after partition.  The
other way is to make an entity of every record, in ascending order of partitions and keys, and to put
one after another, so that every key is claimed on its own just before its record is stored
(`putRecords`).

Both come to the same when every record goes under the key that it holds or, if it holds none, is
given (`FitsSchema`).  Every put claims a key and then makes an insertion in which the counter has no
part, and of such steps the claims can be drawn together before the first insertion
(`ClaimsThen.foldlM`).  Moving the counter past every key is moving it past the largest, and what is
left of both ways is the same insertions in the same order (`sameContents_insertRecords`).
-/
import RecordStore.Proofs.Store.ClaimedKeys
import RecordStore.Proofs.Store.SameContents

namespace RecordStore

/-- A record with a key filled in has this key, if it had none or just this one. -/
theorem Record.key_filled {r : Record} {field key : String}
    (hkey : r.key field = .ok none ∨ r.key field = .ok (some key)) :
    (r.filled field key).key field = .ok (some key) := by
  rcases hkey with hnone | hown
  · rw [Record.key, get?_filled, if_pos ⟨rfl, key_eq_none_iff.mp hnone⟩]
    rfl
  · have hkeyed : ¬ r.lacks field = true := by
      intro hlacks
      cases hown.symm.trans (key_eq_none_iff.mpr hlacks)
    rw [filled, if_neg hkeyed]
    exact hown

/-- The keys of a dataset, partition by partition. -/
def Dataset.keys (d : Dataset) : List String := d.partitions.entries.flatMap fun e => e.2.names

theorem Dataset.numericKeys_eq_filterMap_keys (d : Dataset) :
    d.numericKeys = d.keys.filterMap KeyCounter.number? := by
  rw [numericKeys, keys, NameMap.values, List.flatMap_map, List.filterMap_flatMap]

namespace Store

/-! ## Putting the records of a dataset -/

/-- Puts a record of a dataset as an entity of a type, under the key of the dataset where it has
none. -/
def putRecord (s : Store) (t : EntityType) (key : String) (r : Record) : Except Error Store := do
  let e ← Entity.ofTypeNamed s.schema t.name (r.filled t.keyField key)
  let saved ← s.put e
  return saved.store

/-- Puts the records that a dataset has for a partition, one by one, as entities of its type. -/
def putPartition (s : Store) (name : String) (records : NameMap Record) : Except Error Store :=
  match s.schema.typeOfPartition? name with
  | some t => records.entries.foldlM (fun s e => s.putRecord t e.1 e.2) s
  | none => .ok s

/-- Puts every record of a dataset, one by one. -/
def putRecords (s : Store) (d : Dataset) : Except Error Store :=
  d.partitions.entries.foldlM (fun s e => s.putPartition e.1 e.2) s

/-- The record goes under a key that it holds or, if it holds none, is given. -/
def FitsKey (t : EntityType) (key : String) (r : Record) : Prop :=
  r.key t.keyField = .ok none ∨ r.key t.keyField = .ok (some key)

variable {schema : Schema} {s s' : Store} {t : EntityType}

/-! ## Steps that claim keys and then insert -/

/-- The store with another counter. -/
def withCounter (s : Store) (c : KeyCounter) : Store := { s with counter := c }

@[simp] theorem counter_withCounter (s : Store) (c : KeyCounter) :
    (s.withCounter c).counter = c := rfl

@[simp] theorem withCounter_withCounter (s : Store) (c c' : KeyCounter) :
    (s.withCounter c).withCounter c' = s.withCounter c' := rfl

/-- On stores of a schema, a step claims keys and makes a change in which the counter has no
part. -/
structure ClaimsThen (schema : Schema) (keys : List String) (change : Store → Store)
    (step : Store → Except Error Store) : Prop where
  step_eq : ∀ s s' : Store, s.schema = schema → (step s = .ok s' ↔
    ∃ c, keys.foldlM claimKey s.counter = .ok c ∧ s' = (change s).withCounter c)
  schema_eq : ∀ s : Store, s.schema = schema → (change s).schema = schema
  counter_eq : ∀ (s : Store) (c : KeyCounter), s.schema = schema →
    change (s.withCounter c) = (change s).withCounter c

/-- Of steps one after another the claims can be drawn together before the first change. -/
theorem ClaimsThen.foldlM {α : Type} {keys : α → List String} {change : α → Store → Store}
    {step : α → Store → Except Error Store} {l : List α}
    (h : ∀ a ∈ l, ClaimsThen schema (keys a) (change a) (step a)) :
    ClaimsThen schema (l.flatMap keys) (fun s => l.foldl (fun s a => change a s) s)
      (fun s => l.foldlM (fun s a => step a s) s) := by
  induction l with
  | nil =>
    refine ⟨?_, fun _ hs => hs, fun _ _ _ => rfl⟩
    intro s s' _
    constructor
    · intro hs
      exact ⟨s.counter, rfl, (Except.ok.inj hs).symm⟩
    · rintro ⟨c, hc, rfl⟩
      obtain rfl : s.counter = c := Except.ok.inj hc
      rfl
  | cons a rest ih =>
    obtain ⟨hfirst, hrest⟩ := List.forall_mem_cons.mp h
    have ih := ih hrest
    refine ⟨?step, ?schema, ?counter⟩
    case schema =>
      intro s hs
      exact ih.schema_eq (change a s) (hfirst.schema_eq s hs)
    case counter =>
      intro s c hs
      rw [List.foldl_cons, List.foldl_cons, hfirst.counter_eq s c hs]
      exact ih.counter_eq (change a s) c (hfirst.schema_eq s hs)
    case step =>
      intro s s' hs
      have hschema : (change a s).schema = schema := hfirst.schema_eq s hs
      -- the rest, from where the first step leads
      have hlater : ∀ c, rest.foldlM (fun s a => step a s) ((change a s).withCounter c) = .ok s' ↔
          ∃ c', (rest.flatMap keys).foldlM claimKey c = .ok c' ∧
            s' = ((a :: rest).foldl (fun s a => change a s) s).withCounter c' := by
        intro c
        rw [ih.step_eq ((change a s).withCounter c) s' hschema,
          ih.counter_eq (change a s) c hschema]
        simp only [counter_withCounter, withCounter_withCounter, List.foldl_cons]
      rw [List.flatMap_cons, List.foldlM_append, List.foldlM_cons, bind_eq_ok_iff]
      simp only [hfirst.step_eq s _ hs, bind_eq_ok_iff]
      constructor
      · rintro ⟨_, ⟨c, hclaim, rfl⟩, hrest⟩
        obtain ⟨c', hclaims, hs'⟩ := (hlater c).mp hrest
        exact ⟨c', ⟨c, hclaim, hclaims⟩, hs'⟩
      · rintro ⟨c', ⟨c, hclaim, hclaims⟩, hs'⟩
        exact ⟨_, ⟨c, hclaim, rfl⟩, (hlater c).mpr ⟨c', hclaims, hs'⟩⟩

/-- The store with one record of a dataset inserted. -/
def insertRecord (s : Store) (t : EntityType) (key : String) (r : Record) : Store :=
  s.setPartition t.partition ((s.partition t.partition).insert key (loadedRecord t key r))

theorem putRecord_eq_ok_iff {key : String} {r : Record} (ht : t ∈ s.schema.toList)
    (hkey : FitsKey t key r) :
    s.putRecord t key r = .ok s' ↔
      ∃ c, claimKey s.counter key = .ok c ∧ s' = (s.insertRecord t key r).withCounter c := by
  have hvalid : t.Valid := Schema.valid_of_mem_toList ht
  have hresolve : s.schema.resolve t.name = .ok t :=
    Schema.resolve_eq_ok_iff.mpr (Schema.mem_toList_iff.mp ht)
  have hown : (Entity.ofType t (r.filled t.keyField key)).key = .ok (some key) :=
    Record.key_filled hkey
  have hpersisted : (Entity.ofType t (r.filled t.keyField key)).persisted =
      loadedRecord t key r := by
    rw [Record.loadedRecord_eq_filled hvalid]
    exact Record.project_filled hvalid.keyField_mem key
  rw [putRecord, bind_eq_ok_iff]
  constructor
  · rintro ⟨e, he, h⟩
    obtain ⟨u, hu, rfl⟩ := Entity.ofTypeNamed_eq_ok_iff.mp he
    obtain rfl : t = u := Except.ok.inj (hresolve.symm.trans hu)
    obtain ⟨saved, hput, h⟩ := bind_eq_ok_iff.mp h
    obtain rfl : saved.store = s' := Except.ok.inj h
    obtain ⟨v, c, hv, hassign, hstore⟩ := put_eq_ok_iff.mp hput
    obtain rfl : t = v := Except.ok.inj (hresolve.symm.trans hv)
    rcases assignKey_eq_ok_iff.mp hassign with ⟨hsaved, hentity, hclaim⟩ | ⟨hnone, _⟩
    · obtain rfl : key = saved.key := Option.some.inj (Except.ok.inj (hown.symm.trans hsaved))
      rw [hentity, hpersisted] at hstore
      exact ⟨c, hclaim, hstore⟩
    · cases hown.symm.trans hnone
  · rintro ⟨c, hclaim, rfl⟩
    have hput : s.put (.ofType t (r.filled t.keyField key)) =
        .ok ⟨key, .ofType t (r.filled t.keyField key),
          (s.insertRecord t key r).withCounter c⟩ := by
      refine put_eq_ok_iff.mpr ⟨t, c, hresolve, ?_, ?_⟩
      · exact assignKey_eq_ok_iff.mpr (.inl ⟨hown, rfl, hclaim⟩)
      · rw [hpersisted]
        rfl
    exact ⟨_, Entity.ofTypeNamed_eq_ok_iff.mpr ⟨t, hresolve, rfl⟩,
      bind_eq_ok_iff.mpr ⟨_, hput, rfl⟩⟩

theorem claimsThen_putRecord {key : String} {r : Record} (ht : t ∈ schema.toList)
    (hkey : FitsKey t key r) :
    ClaimsThen schema [key] (fun s => s.insertRecord t key r) (fun s => s.putRecord t key r) := by
  refine ⟨?_, fun _ hs => hs, fun _ _ _ => rfl⟩
  rintro s s' rfl
  rw [putRecord_eq_ok_iff ht hkey, List.foldlM_cons]
  simp only [List.foldlM_nil, bind_pure]

/-- The store with the records that a dataset has for a partition inserted one after another. -/
def insertRecords (s : Store) (name : String) (records : NameMap Record) : Store :=
  match s.schema.typeOfPartition? name with
  | some t => records.entries.foldl (fun s e => s.insertRecord t e.1 e.2) s
  | none => s

theorem claimsThen_putPartition {name : String} {records : NameMap Record}
    (ht : schema.typeOfPartition? name = some t)
    (hkeys : ∀ e ∈ records.entries, FitsKey t e.1 e.2) :
    ClaimsThen schema records.names (fun s => s.insertRecords name records)
      (fun s => s.putPartition name records) := by
  have hmem : t ∈ schema.toList := Schema.mem_toList_of_typeOfPartition? ht
  have hrecords := ClaimsThen.foldlM (l := records.entries) fun e he =>
    claimsThen_putRecord hmem (hkeys e he)
  rw [← List.map_eq_flatMap] at hrecords
  have hput : ∀ s : Store, s.schema = schema → s.putPartition name records =
      records.entries.foldlM (fun s e => s.putRecord t e.1 e.2) s := by
    rintro s rfl
    rw [putPartition, ht]
  have hinsert : ∀ s : Store, s.schema = schema → s.insertRecords name records =
      records.entries.foldl (fun s e => s.insertRecord t e.1 e.2) s := by
    rintro s rfl
    rw [insertRecords, ht]
  refine ⟨?step, ?schema, ?counter⟩
  case step =>
    intro s s' hs
    rw [hput s hs, hinsert s hs]
    exact hrecords.step_eq s s' hs
  case schema =>
    intro s hs
    rw [hinsert s hs]
    exact hrecords.schema_eq s hs
  case counter =>
    intro s c hs
    rw [hinsert s hs, hinsert (s.withCounter c) hs]
    exact hrecords.counter_eq s c hs

/-! ## The same insertions -/

theorem sameContents_foldl_insertRecord (l : List (String × Record)) (s : Store) :
    SameContents (l.foldl (fun s e => s.insertRecord t e.1 e.2) s)
      (s.setPartition t.partition
        (l.foldl (fun p e => p.insert e.1 (loadedRecord t e.1 e.2)) (s.partition t.partition))) := by
  induction l generalizing s with
  | nil =>
    refine ⟨rfl, ?_⟩
    intro other
    rw [List.foldl_nil, List.foldl_nil, partition_setPartition]
    split
    · next h => rw [h]
    · rfl
  | cons e rest ih =>
    refine (ih (s.insertRecord t e.1 e.2)).trans ?_
    rw [insertRecord, partition_setPartition, if_pos rfl, setPartition_setPartition]
    exact .refl _

/-- Inserting the records of a partition one after another differs from adding them together only in
that a partition without records is not opened. -/
theorem sameContents_insertRecords (s : Store) (name : String) (records : NameMap Record) :
    SameContents (s.insertRecords name records) (s.loadPartition name records) := by
  unfold insertRecords loadPartition
  cases ht : s.schema.typeOfPartition? name with
  | none => exact .refl s
  | some t =>
    obtain rfl := Schema.partition_of_typeOfPartition? ht
    exact sameContents_foldl_insertRecord records.entries s

theorem sameContents_foldl_insertRecords (l : List (String × NameMap Record)) (s : Store) :
    SameContents (l.foldl (fun s e => s.insertRecords e.1 e.2) s)
      (l.foldl (fun s e => s.loadPartition e.1 e.2) s) := by
  induction l generalizing s with
  | nil => exact .refl s
  | cons e rest ih =>
    exact (ih _).trans ((sameContents_insertRecords s e.1 e.2).foldl_loadPartition rest)

theorem covers_insertRecords (hs : s.Covers) (name : String) (records : NameMap Record) :
    (s.insertRecords name records).Covers := by
  unfold insertRecords
  split
  · next t ht =>
    have hmem : t ∈ s.schema.toList := Schema.mem_toList_of_typeOfPartition? ht
    clear ht
    generalize records.entries = l
    induction l generalizing s with
    | nil => exact hs
    | cons e rest ih => exact ih (covers_setPartition hs hmem _) hmem
  · exact hs

theorem covers_foldl_insertRecords (l : List (String × NameMap Record)) (hs : s.Covers) :
    (l.foldl (fun s e => s.insertRecords e.1 e.2) s).Covers := by
  induction l generalizing s with
  | nil => exact hs
  | cons e rest ih => exact ih (covers_insertRecords hs e.1 e.2)

/-! ## Both ways -/

/-- The dataset names only partitions of the types, and puts every record under the key that it holds
or, if it holds none, is given. -/
structure FitsSchema (schema : Schema) (d : Dataset) : Prop where
  known : ∀ name ∈ d.partitions.names, schema.hasPartition name = true
  keyed : ∀ name t key r, schema.typeOfPartition? name = some t → d.get? name key = some r →
    FitsKey t key r

/-- Putting the records of a dataset claims all of its keys and inserts all of its records. -/
theorem claimsThen_putRecords {d : Dataset} (hd : FitsSchema schema d) :
    ClaimsThen schema d.keys
      (fun s => d.partitions.entries.foldl (fun s e => s.insertRecords e.1 e.2) s)
      (fun s => s.putRecords d) := by
  apply ClaimsThen.foldlM
  rintro ⟨name, records⟩ he
  have hname : name ∈ d.partitions.names := List.mem_map_of_mem he
  obtain ⟨t, ht⟩ := Option.isSome_iff_exists.mp (hd.known name hname)
  refine claimsThen_putPartition ht ?_
  rintro ⟨key, r⟩ hr
  refine hd.keyed name t key r ht ?_
  rw [Dataset.get?, NameMap.mem_entries_iff.mp he]
  exact NameMap.mem_entries_iff.mp hr

theorem putRecords_eq_ok_iff {d : Dataset} (hd : FitsSchema s.schema d) :
    s.putRecords d = .ok s' ↔ ∃ c, claimKeys s.counter d = .ok c ∧
      s' = (d.partitions.entries.foldl (fun s e => s.insertRecords e.1 e.2) s).withCounter c := by
  rw [(claimsThen_putRecords hd).step_eq s s' rfl]
  simp only [foldlM_claimKey_eq_ok_iff, claimKeys_eq_ok_iff_movedPast,
    Dataset.numericKeys_eq_filterMap_keys]

/-- A dataset that fits the schema is loaded exactly when each of its records can be put in turn, and
both ways lead to the same counter and, in every partition, to the same records under the same keys
in the same order: to the same store, if it had just the partitions of its schema. -/
theorem load_iff_put_one_by_one {s : Store} {d : Dataset} (hd : FitsSchema s.schema d) :
    ((∃ s', s.load d = .ok s') ↔ ∃ s', s.putRecords d = .ok s') ∧
    (∀ loaded put, s.load d = .ok loaded → s.putRecords d = .ok put →
      loaded.counter = put.counter ∧ ∀ name, loaded.partition name = put.partition name) ∧
    (s.Covers → ∀ s', s.load d = .ok s' ↔ s.putRecords d = .ok s') := by
  have hload : ∀ s', s.load d = .ok s' ↔
      ∃ c, claimKeys s.counter d = .ok c ∧ s' = ({ s with counter := c } : Store).withRecords d := by
    intro s'
    rw [load_eq_ok_iff, and_iff_right hd.known]
  have hcontents : ∀ c, SameContents (({ s with counter := c } : Store).withRecords d)
      ((d.partitions.entries.foldl (fun s e => s.insertRecords e.1 e.2) s).withCounter c) := by
    intro c
    have hsame := sameContents_foldl_insertRecords d.partitions.entries s
    exact (((SameContents.refl s).withCounter c s.counter).withRecords d).trans
      (hsame.symm.withCounter _ c)
  have hcounter : ∀ c, (({ s with counter := c } : Store).withRecords d).counter = c :=
    fun c => counter_foldl_loadPartition _ _
  refine ⟨?succeeds, ?same, ?equal⟩
  case succeeds =>
    simp only [hload, putRecords_eq_ok_iff hd]
    constructor
    · rintro ⟨_, c, hclaims, _⟩
      exact ⟨_, c, hclaims, rfl⟩
    · rintro ⟨_, c, hclaims, _⟩
      exact ⟨_, c, hclaims, rfl⟩
  case same =>
    intro loaded put hloaded hput
    obtain ⟨c, hclaims, rfl⟩ := (hload loaded).mp hloaded
    obtain ⟨c', hclaims', rfl⟩ := (putRecords_eq_ok_iff hd).mp hput
    obtain rfl : c = c' := Except.ok.inj (hclaims.symm.trans hclaims')
    exact ⟨hcounter c, (hcontents c).partition⟩
  case equal =>
    intro hs s'
    have hequal : ∀ c, ({ s with counter := c } : Store).withRecords d =
        (d.partitions.entries.foldl (fun s e => s.insertRecords e.1 e.2) s).withCounter c := by
      intro c
      have hloaded : (({ s with counter := c } : Store).withRecords d).Covers :=
        covers_foldl_loadPartition _ hs
      have hput : ((d.partitions.entries.foldl (fun s e => s.insertRecords e.1 e.2)
          s).withCounter c).Covers := covers_foldl_insertRecords _ hs
      rw [(hcontents c).eq_of_covers hloaded hput, hcounter]
      rfl
    simp only [hload, putRecords_eq_ok_iff hd, hequal]

/-- Three records of two partitions, whose keys are absent, `null` and a number. -/
def visitorAndTags : Dataset :=
  ((Dataset.empty.insert "visitors" "30" (Record.empty.insert "id" .null)).insert "tags" "zoo"
    .empty).insert "tags" "11" (Record.empty.insert "value" (.number (.ofWord 11)))

theorem fitsSchema_visitorAndTags : FitsSchema Catalog.builtIn visitorAndTags := by
  refine ⟨by decide, ?_⟩
  intro name t key r ht hr
  rw [visitorAndTags, Dataset.get?_insert, Dataset.get?_insert, Dataset.get?_insert] at hr
  split at hr
  · next heleven =>
    obtain ⟨rfl, rfl⟩ := heleven
    obtain rfl : Catalog.tag = t := Option.some.inj ht
    obtain rfl := Option.some.inj hr
    exact .inr rfl
  split at hr
  · next hzoo =>
    obtain ⟨rfl, rfl⟩ := hzoo
    obtain rfl : Catalog.tag = t := Option.some.inj ht
    obtain rfl := Option.some.inj hr
    exact .inl rfl
  split at hr
  · next hvisitor =>
    obtain ⟨rfl, rfl⟩ := hvisitor
    obtain rfl : Catalog.user = t := Option.some.inj ht
    obtain rfl := Option.some.inj hr
    exact .inl rfl
  · cases hr

theorem visitorAndTags_put_one_by_one :
    ∃ s', (empty Catalog.builtIn).load visitorAndTags = .ok s' ∧
      (empty Catalog.builtIn).putRecords visitorAndTags = .ok s' ∧
      (s'.partition "tags").keys = ["11", "zoo"] ∧ s'.counter.next = 31 := by
  obtain ⟨s', hload⟩ : ∃ s', (empty Catalog.builtIn).load visitorAndTags = .ok s' := ⟨_, rfl⟩
  have hafter : (s'.partition "tags").keys = ["11", "zoo"] ∧ s'.counter.next = 31 := by
    obtain rfl := Except.ok.inj hload
    decide
  obtain ⟨_, _, hequal⟩ :=
    load_iff_put_one_by_one (s := empty Catalog.builtIn) fitsSchema_visitorAndTags
  exact ⟨s', hload, (hequal (covers_empty _) s').mp hload, hafter⟩

end Store

end RecordStore
