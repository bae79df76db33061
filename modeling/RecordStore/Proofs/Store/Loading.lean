/-
# RecordStore.Proofs.Store.Loading — all that loading a dataset does.

A dataset is looked at as a whole before anything is stored.  It is refused for the first partition
that no type uses, listed with records or without, and only if there is none for its largest number
among the keys.  Otherwise all of it is stored.

`Loads` relates a store and a dataset to what comes of it.  What is stored is said by look-ups alone:
`IsStoredForm` is about one record, `CounterBeyond` about the counter, and `Extended` puts them
together and says what stays as it was.  Where no partition is shared they leave nothing open
(`Extended.unique`), so `load_eq_iff_loads` is an equivalence.

That a second load of the same dataset changes nothing is read off the description: a store that has
been extended by a dataset is an extension of itself by it (`Extended.again`).
-/
import Mathlib.Data.List.Sort
import RecordStore.Proofs.NameMap
import RecordStore.Proofs.Store.ClaimedKeys
import RecordStore.Proofs.Store.Contents

namespace RecordStore

/-! ## The record -/

/-- The form in which a record of a dataset is stored under a key: the declared fields and no others,
as they are given, or `null`; and the key in the key field, where that is absent or `null`. -/
structure Record.IsStoredForm (r given : Record) (t : EntityType) (key : String) : Prop where
  undeclared : ∀ field, field ∉ t.fieldNames → r.get? field = none
  declared : ∀ field ∈ t.fieldNames, field ≠ t.keyField →
    r.get? field = some ((given.get? field).getD .null)
  keyed : ∀ v, given.get? t.keyField = some v → v ≠ .null → r.get? t.keyField = some v
  filled : given.get? t.keyField = none ∨ given.get? t.keyField = some .null →
    r.get? t.keyField = some (.text key)

theorem Record.isStoredForm_loadedRecord {t : EntityType} (ht : t.Valid) (given : Record)
    (key : String) : (Store.loadedRecord t key given).IsStoredForm given t key := by
  have hlookup : ∀ field, (Store.loadedRecord t key given).get? field =
      if field = t.keyField ∧ given.lacks t.keyField then some (.text key)
      else if field ∈ t.fieldNames then some ((given.get? field).getD .null) else none := by
    intro field
    rw [loadedRecord_eq_filled ht, get?_filled, get?_project, lacks_project ht.keyField_mem]
  refine ⟨?_, ?_, ?_, ?_⟩
  · intro field hfield
    have hne : field ≠ t.keyField := fun h => hfield (h ▸ ht.keyField_mem)
    simp [hlookup, hfield, hne]
  · intro field hfield hne
    simp [hlookup, hfield, hne]
  · intro v hv hnull
    have hlacks : given.lacks t.keyField = false := by
      simp [lacks, hv, Bool.eq_false_iff, Value.isNull_iff, hnull]
    simp [hlookup, hlacks, ht.keyField_mem, hv]
  · intro hnone
    simp [hlookup, lacks_eq_true_iff.mpr hnone]

/-- A record has one stored form under a key. -/
theorem Record.IsStoredForm.unique {r r' given : Record} {t : EntityType} {key : String}
    (h : r.IsStoredForm given t key) (h' : r'.IsStoredForm given t key) : r = r' := by
  apply Record.ext_get?
  intro field
  show r.get? field = r'.get? field
  by_cases hfield : field ∈ t.fieldNames
  · by_cases hkey : field = t.keyField
    · -- the key field, which holds what is given or else the key
      subst hkey
      by_cases hnone : given.get? t.keyField = none ∨ given.get? t.keyField = some .null
      · rw [h.filled hnone, h'.filled hnone]
      · rw [not_or] at hnone
        obtain ⟨v, hv⟩ := Option.ne_none_iff_exists'.mp hnone.1
        have hnull : v ≠ .null := fun heq => hnone.2 (heq ▸ hv)
        rw [h.keyed v hv hnull, h'.keyed v hv hnull]
    · rw [h.declared field hfield hkey, h'.declared field hfield hkey]
  · rw [h.undeclared field hfield, h'.undeclared field hfield]

/-! ## The counter -/

namespace Dataset

variable {d : Dataset} {n : UInt64}

/-- A key of the dataset writes the number. -/
def HasNumber (d : Dataset) (n : UInt64) : Prop :=
  ∃ name key r, d.get? name key = some r ∧ KeyCounter.number? key = some n

/-- The number is the largest that a key of the dataset writes. -/
def IsLargest (d : Dataset) (n : UInt64) : Prop :=
  d.HasNumber n ∧ ∀ m, d.HasNumber m → m ≤ n

theorem largestKey?_eq_some_iff : d.largestKey? = some n ↔ d.IsLargest n := by
  simp only [largestKey?, List.max?_eq_some_iff, mem_numericKeys_iff]
  rfl

theorem largestKey?_eq_none_iff : d.largestKey? = none ↔ ∀ n, ¬ d.HasNumber n := by
  simp only [largestKey?, List.max?_eq_none_iff, List.eq_nil_iff_forall_not_mem,
    mem_numericKeys_iff]
  rfl

end Dataset

namespace Store

/-- One counter is another moved beyond the numbers of a dataset: to the word after the largest of
them, unless it was there or further already. -/
structure CounterBeyond (c' c : KeyCounter) (d : Dataset) : Prop where
  numbered : ∀ n, d.IsLargest n → c'.next.toNat = max c.next.toNat (n.toNat + 1)
  unnumbered : (∀ n, ¬ d.HasNumber n) → c' = c

theorem CounterBeyond.unique {c c₁ c₂ : KeyCounter} {d : Dataset} (h₁ : CounterBeyond c₁ c d)
    (h₂ : CounterBeyond c₂ c d) : c₁ = c₂ := by
  cases hlargest : d.largestKey? with
  | none =>
    have hnone := Dataset.largestKey?_eq_none_iff.mp hlargest
    rw [h₁.unnumbered hnone, h₂.unnumbered hnone]
  | some n =>
    have hn := Dataset.largestKey?_eq_some_iff.mp hlargest
    apply KeyCounter.eq_of_toNat_next
    rw [h₁.numbered n hn, h₂.numbered n hn]

theorem claimKeys_eq_ok_iff_counterBeyond {c c' : KeyCounter} {d : Dataset} :
    claimKeys c d = .ok c' ↔
      (∀ n, d.HasNumber n → n.toNat < 2 ^ 64 - 2) ∧ CounterBeyond c' c d := by
  rw [claimKeys_eq_ok_iff]
  cases hlargest : d.largestKey? with
  | none =>
    have hnone := Dataset.largestKey?_eq_none_iff.mp hlargest
    simp only [true_and, reduceCtorEq, false_and, exists_false, or_false]
    refine ⟨?_, fun h => h.2.unnumbered hnone⟩
    rintro rfl
    refine ⟨fun n hn => absurd hn (hnone n), fun n hn => absurd hn.1 (hnone n), fun _ => rfl⟩
  | some largest =>
    have hlargest := Dataset.largestKey?_eq_some_iff.mp hlargest
    simp only [reduceCtorEq, false_and, Option.some.injEq, exists_eq_left', false_or,
      KeyCounter.advancePast?_eq_some_iff]
    refine ⟨?_, fun h => ⟨h.1 largest hlargest.1, h.2.numbered largest hlargest⟩⟩
    rintro ⟨hroom, hnext⟩
    refine ⟨?_, ?_, fun hnone => absurd hlargest.1 (hnone largest)⟩
    · intro n hn
      exact Nat.lt_of_le_of_lt (UInt64.le_iff_toNat_le.mp (hlargest.2 n hn)) hroom
    · intro n hn
      obtain rfl : largest = n := UInt64.le_antisymm (hn.2 largest hlargest.1) (hlargest.2 n hn.1)
      exact hnext

/-! ## The store -/

/-- One store is another with the records of a dataset.  They are stored in the partitions of their
types; every other key of every partition has what it had.  Keys that were there keep their places in
the visiting order, and the others follow in ascending order. -/
structure Extended (s' s : Store) (d : Dataset) : Prop where
  schema : s'.schema = s.schema
  opened : ∀ name, s'.partitions.contains name = true ↔
    s.partitions.contains name = true ∨ name ∈ d.partitions.names
  stored : ∀ t ∈ s.schema.toList, ∀ key given, d.get? t.partition key = some given →
    ∃ r, (s'.partition t.partition).get? key = some r ∧ r.IsStoredForm given t key
  others : ∀ name key, d.get? name key = none →
    (s'.partition name).get? key = (s.partition name).get? key
  keys : ∀ name, ∃ added, (s'.partition name).keys = (s.partition name).keys ++ added ∧
    added.Pairwise (· < ·) ∧
    ∀ key, key ∈ added ↔ (∃ r, d.get? name key = some r) ∧ key ∉ (s.partition name).keys
  counter : CounterBeyond s'.counter s.counter d

variable {s s' s'' : Store} {d : Dataset} {name : String} {t : EntityType}

theorem get?_partition_withRecords (ht : s.schema.typeOfPartition? name = some t) (key : String) :
    ((s.withRecords d).partition name).get? key =
      ((d.get? name key).map (loadedRecord t key)).or ((s.partition name).get? key) := by
  rw [Dataset.get?]
  cases hd : d.partitions.get? name with
  | none =>
    rw [partition_withRecords_of_none hd]
    rfl
  | some records =>
    rw [partition_withRecords_of_some hd ht]
    exact get?_loadRecords t records (s.partition name) key

/-- Adding a dataset opens the partitions that it lists, with records or without. -/
theorem contains_withRecords
    (hknown : ∀ name ∈ d.partitions.names, s.schema.hasPartition name = true) (name : String) :
    (s.withRecords d).partitions.contains name = true ↔
      s.partitions.contains name = true ∨ name ∈ d.partitions.names := by
  unfold withRecords NameMap.names at *
  generalize d.partitions.entries = l at hknown
  induction l generalizing s with
  | nil => simp
  | cons e rest ih =>
    obtain ⟨hfirst, hrest⟩ := List.forall_mem_cons.mp hknown
    obtain ⟨t, ht⟩ := Option.isSome_iff_exists.mp hfirst
    have hopened : (s.loadPartition e.1 e.2).partitions.contains name = true ↔
        name = e.1 ∨ s.partitions.contains name = true := by
      rw [loadPartition, ht]
      exact NameMap.contains_insert_iff
    rw [List.foldl_cons, ih (by simpa using hrest), hopened, List.map_cons, List.mem_cons]
    tauto

/-- Adding a dataset leaves the keys of a partition in their places, and puts the new ones behind them
in ascending order. -/
theorem keys_partition_withRecords (ht : s.schema.typeOfPartition? name = some t) :
    ∃ added, ((s.withRecords d).partition name).keys = (s.partition name).keys ++ added ∧
      added.Pairwise (· < ·) ∧
      ∀ key, key ∈ added ↔ (∃ r, d.get? name key = some r) ∧ key ∉ (s.partition name).keys := by
  cases hd : d.partitions.get? name with
  | none =>
    rw [partition_withRecords_of_none hd]
    refine ⟨[], (List.append_nil _).symm, List.Pairwise.nil, ?_⟩
    simp [Dataset.get?, hd]
  | some records =>
    rw [partition_withRecords_of_some hd ht, keys_loadRecords]
    refine ⟨_, rfl, records.names_ascending.filter _, ?_⟩
    intro key
    rw [List.mem_filter, NameMap.mem_names_iff, NameMap.contains_iff, decide_eq_true_iff,
      Dataset.get?, hd]
    rfl

/-- A partition that no type uses is not in a dataset all of whose partitions are used. -/
theorem get?_eq_none_of_unused
    (hknown : ∀ name ∈ d.partitions.names, s.schema.hasPartition name = true)
    (hnone : s.schema.typeOfPartition? name = none) : d.partitions.get? name = none := by
  cases hd : d.partitions.get? name with
  | none => rfl
  | some records =>
    have hused := hknown name (NameMap.mem_names_of_get? hd)
    rw [Schema.hasPartition, hnone] at hused
    cases hused

theorem extended_withRecords (hs : s.schema.Unshared)
    (hknown : ∀ name ∈ d.partitions.names, s.schema.hasPartition name = true) {c : KeyCounter}
    (hc : CounterBeyond c s.counter d) : Extended ({ s with counter := c }.withRecords d) s d := by
  refine ⟨schema_withRecords _ _, contains_withRecords hknown, ?stored, ?others, ?keys, ?counter⟩
  case stored =>
    intro t ht key given hgiven
    have htype : s.schema.typeOfPartition? t.partition = some t := hs.typeOfPartition?_of_mem ht
    refine ⟨loadedRecord t key given, ?_,
      Record.isStoredForm_loadedRecord (Schema.valid_of_mem_toList ht) given key⟩
    rw [get?_partition_withRecords (s := { s with counter := c }) htype, hgiven]
    rfl
  case others =>
    intro name key hgiven
    cases ht : s.schema.typeOfPartition? name with
    | none =>
      rw [partition_withRecords_of_none (get?_eq_none_of_unused hknown ht)]
      rfl
    | some t =>
      rw [get?_partition_withRecords (s := { s with counter := c }) ht, hgiven]
      rfl
  case keys =>
    intro name
    cases ht : s.schema.typeOfPartition? name with
    | none =>
      have hd := get?_eq_none_of_unused hknown ht
      rw [partition_withRecords_of_none hd]
      exact ⟨[], (List.append_nil _).symm, List.Pairwise.nil, by simp [Dataset.get?, hd]⟩
    | some t => exact keys_partition_withRecords (s := { s with counter := c }) ht
  case counter => rwa [counter_withRecords]

theorem Extended.get?_eq
    (hknown : ∀ name ∈ d.partitions.names, s.schema.hasPartition name = true)
    (h' : Extended s' s d) (h'' : Extended s'' s d) (name key : String) :
    (s'.partition name).get? key = (s''.partition name).get? key := by
  cases hgiven : d.get? name key with
  | none => rw [h'.others name key hgiven, h''.others name key hgiven]
  | some given =>
    obtain ⟨records, hrecords, _⟩ := Option.bind_eq_some_iff.mp hgiven
    obtain ⟨t, ht, rfl⟩ := Schema.hasPartition_iff.mp
      (hknown name (NameMap.mem_names_of_get? hrecords))
    obtain ⟨r', hr', hform'⟩ := h'.stored t ht key given hgiven
    obtain ⟨r'', hr'', hform''⟩ := h''.stored t ht key given hgiven
    rw [hr', hr'', hform'.unique hform'']

/-- A store can be extended by a dataset in one way only. -/
theorem Extended.unique
    (hknown : ∀ name ∈ d.partitions.names, s.schema.hasPartition name = true)
    (h' : Extended s' s d) (h'' : Extended s'' s d) : s' = s'' := by
  have hkeys : ∀ name, (s'.partition name).keys = (s''.partition name).keys := by
    intro name
    obtain ⟨added', hkeys', hascending', hadded'⟩ := h'.keys name
    obtain ⟨added'', hkeys'', hascending'', hadded''⟩ := h''.keys name
    have hadded : added' = added'' :=
      hascending'.eq_of_mem_iff hascending'' fun key => (hadded' key).trans (hadded'' key).symm
    rw [hkeys', hkeys'', hadded]
  have hpartitions : s'.partitions = s''.partitions := by
    apply ext_partitions
    · intro name
      rw [Bool.eq_iff_iff, h'.opened, h''.opened]
    · intro name
      exact Partition.ext_keys_get? (hkeys name) (Extended.get?_eq hknown h' h'' name)
  obtain ⟨schema', counter', partitions'⟩ := s'
  obtain ⟨schema'', counter'', partitions''⟩ := s''
  obtain rfl : schema' = schema'' := h'.schema.trans h''.schema.symm
  obtain rfl : counter' = counter'' := h'.counter.unique h''.counter
  obtain rfl : partitions' = partitions'' := hpartitions
  rfl

/-- A store that a dataset has extended is its own extension by this dataset. -/
theorem Extended.again (h : Extended s' s d) : Extended s' s' d := by
  refine ⟨rfl, ?opened, ?stored, fun _ _ _ => rfl, ?keys, ?counter⟩
  case opened =>
    intro name
    rw [h.opened]
    tauto
  case stored =>
    rw [h.schema]
    exact h.stored
  case keys =>
    -- every key of the dataset is there now, so none is added
    intro name
    refine ⟨[], (List.append_nil _).symm, List.Pairwise.nil, ?_⟩
    intro key
    obtain ⟨added, hkeys, _, hadded⟩ := h.keys name
    rw [hkeys, List.mem_append, hadded]
    simp only [List.not_mem_nil, false_iff]
    tauto
  case counter =>
    refine ⟨?_, fun _ => rfl⟩
    intro n hn
    have hnext := h.counter.numbered n hn
    omega

/-! ## Loading -/

/-- A type of the store's schema uses the partition. -/
def Uses (s : Store) (name : String) : Prop :=
  ∃ t ∈ s.schema.toList, t.partition = name

/-- What comes of loading a dataset into a store. -/
inductive Loads (s : Store) (d : Dataset) : Except Error Store → Prop where
  | unstored {name : String} (hname : name ∈ d.partitions.names) (hunused : ¬ s.Uses name)
      (hfirst : ∀ other ∈ d.partitions.names, other < name → s.Uses other) :
      Loads s d (.error (.invalidDataset (.unstoredPartition name)))
  | noRoom {n : UInt64} (hused : ∀ name ∈ d.partitions.names, s.Uses name)
      (hlargest : d.IsLargest n) (hlarge : 2 ^ 64 - 2 ≤ n.toNat) :
      Loads s d (.error (.invalidDataset (.keyTooLarge n)))
  | loaded {s' : Store} (hused : ∀ name ∈ d.partitions.names, s.Uses name)
      (hroom : ∀ n, d.HasNumber n → n.toNat < 2 ^ 64 - 2) (h : Extended s' s d) :
      Loads s d (.ok s')

theorem load_eq_ok_iff_extended (hs : s.schema.Unshared) :
    s.load d = .ok s' ↔ (∀ name ∈ d.partitions.names, s.Uses name) ∧
      (∀ n, d.HasNumber n → n.toNat < 2 ^ 64 - 2) ∧ Extended s' s d := by
  simp only [Uses, ← Schema.hasPartition_iff, load_eq_ok_iff, claimKeys_eq_ok_iff_counterBeyond]
  refine and_congr_right fun hknown => ⟨?_, ?_⟩
  · rintro ⟨c, ⟨hroom, hc⟩, rfl⟩
    exact ⟨hroom, extended_withRecords hs hknown hc⟩
  · -- the store that is described is the one that loading makes
    rintro ⟨hroom, h⟩
    exact ⟨s'.counter, ⟨hroom, h.counter⟩, h.unique hknown (extended_withRecords hs hknown h.counter)⟩

theorem find?_names_unused_eq_some_iff :
    d.partitions.names.find? (fun name => !s.schema.hasPartition name) = some name ↔
      name ∈ d.partitions.names ∧ ¬ s.Uses name ∧
        ∀ other ∈ d.partitions.names, other < name → s.Uses other := by
  simp only [Uses, ← Schema.hasPartition_iff, NameMap.find?_names_eq_some_iff,
    Bool.not_eq_true', Bool.not_eq_false', Bool.not_eq_true]

theorem find?_names_unused_eq_none_iff :
    d.partitions.names.find? (fun name => !s.schema.hasPartition name) = none ↔
      ∀ name ∈ d.partitions.names, s.Uses name := by
  simp [Uses, ← Schema.hasPartition_iff]

theorem load_eq_error_iff_loads {cause : Error} :
    s.load d = .error cause ↔ Loads s d (.error cause) := by
  rw [load_eq_error_iff, find?_names_unused_eq_none_iff, claimKeys_eq_error_iff]
  simp only [find?_names_unused_eq_some_iff, Dataset.largestKey?_eq_some_iff]
  constructor
  · rintro (⟨name, ⟨hname, hunused, hfirst⟩, rfl⟩ | ⟨hused, n, hlargest, hlarge, rfl⟩)
    · exact .unstored hname hunused hfirst
    · exact .noRoom hused hlargest hlarge
  · rintro (⟨hname, hunused, hfirst⟩ | ⟨hused, hlargest, hlarge⟩)
    · exact .inl ⟨_, ⟨hname, hunused, hfirst⟩, rfl⟩
    · exact .inr ⟨hused, _, hlargest, hlarge, rfl⟩

theorem load_load (hs : s.schema.Unshared) (d : Dataset) :
    (s.load d >>= fun s' => s'.load d) = s.load d := by
  cases hload : s.load d with
  | error cause => rfl
  | ok s' =>
    obtain ⟨hused, hroom, h⟩ := (load_eq_ok_iff_extended hs).mp hload
    show s'.load d = .ok s'
    rw [load_eq_ok_iff_extended (h.schema.symm ▸ hs)]
    refine ⟨?_, hroom, h.again⟩
    unfold Uses
    rw [h.schema]
    exact hused

/-- Where no two types share a partition, a dataset is loaded exactly if every partition that it lists
is used and all its numbers leave room for generated keys, what comes of it is what `Loads` says, and
loading it again changes nothing. -/
theorem load_eq_iff_loads {s : Store} (hs : s.schema.Unshared) (d : Dataset) :
    ((∃ s', s.load d = .ok s') ↔ (∀ name ∈ d.partitions.names, s.Uses name) ∧
      ∀ n, d.HasNumber n → n.toNat < 2 ^ 64 - 2) ∧
    (∀ outcome, s.load d = outcome ↔ Loads s d outcome) ∧
    (s.load d >>= fun s' => s'.load d) = s.load d := by
  have hiff : ∀ outcome, s.load d = outcome ↔ Loads s d outcome := by
    intro outcome
    cases outcome with
    | error cause => exact load_eq_error_iff_loads
    | ok s' =>
      rw [load_eq_ok_iff_extended hs]
      exact ⟨fun ⟨hused, hroom, h⟩ => .loaded hused hroom h,
        fun (.loaded hused hroom h) => ⟨hused, hroom, h⟩⟩
  refine ⟨⟨?_, ?_⟩, hiff, load_load hs d⟩
  · rintro ⟨s', hload⟩
    obtain ⟨hused, hroom, _⟩ := (load_eq_ok_iff_extended hs).mp hload
    exact ⟨hused, hroom⟩
  · rintro ⟨hused, hroom⟩
    cases hload : s.load d with
    | ok s' => exact ⟨s', rfl⟩
    | error cause =>
      -- neither of the two reasons to refuse the dataset is there
      rcases (hiff _).mp hload with ⟨hname, hunused, _⟩ | ⟨_, hlargest, hlarge⟩
      · exact absurd (hused _ hname) hunused
      · exact absurd (hroom _ hlargest.1) (Nat.not_lt.mpr hlarge)

/-- A store with two tags, the first of which comes later in the order of keys. -/
def twoTags : Store :=
  (empty Catalog.builtIn).run
    [.put (.ofType Catalog.tag (Record.empty.insert "value" (.text "zoo"))),
      .put (.ofType Catalog.tag (Record.empty.insert "value" (.text "art")))]

/-- One of these tags with other fields, two that are not among them, and a partition without
records. -/
def moreTags : Dataset :=
  let tags := ((Dataset.empty.insert "tags" "zoo"
      ((Record.empty.insert "value" (.text "park")).insert "colour" (.text "green"))).insert
    "tags" "jazz" (Record.empty.insert "count" (.number (.ofWord 3)))).insert
    "tags" "+9" (Record.empty.insert "value" .null)
  ⟨tags.partitions.insert "apps" .empty⟩

theorem moreTags_loaded :
    twoTags.schema.Unshared ∧
    (twoTags.load moreTags).map (fun s' => ((s'.partition "tags").keys, s'.counter.next)) =
      .ok (["zoo", "art", "+9", "jazz"], 10) ∧
    ((∃ s', twoTags.load moreTags = .ok s') ↔
      (∀ name ∈ moreTags.partitions.names, twoTags.Uses name) ∧
        ∀ n, moreTags.HasNumber n → n.toNat < 2 ^ 64 - 2) ∧
    (∀ outcome, twoTags.load moreTags = outcome ↔ Loads twoTags moreTags outcome) ∧
    (twoTags.load moreTags >>= fun s' => s'.load moreTags) = twoTags.load moreTags := by
  have hunshared : twoTags.schema.Unshared := Schema.builtIn_unshared
  exact ⟨hunshared, by rfl, load_eq_iff_loads hunshared moreTags⟩

/-- A partition that no type uses is reported before a key that is too large. -/
example :
    ((empty Catalog.builtIn).load ((Dataset.empty.insert "apps" "18446744073709551615" .empty).insert
      "zoos" "a" .empty)).map (fun s' => s'.counter.next) =
    .error (.invalidDataset (.unstoredPartition "zoos")) := by
  rfl

end Store

end RecordStore
