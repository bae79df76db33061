/-
# RecordStore.Proofs.Store.History — a store is what its history says last.

A history lists, operation by operation, which keys were erased and which records were then written
(`Effect`).  It mentions no partition contents, no counter and no visiting order.  From a history
alone one can read

* which record a key holds: the last one written under it, unless the key was erased since
  (`Holds`);
* when a key that holds a record came to be there: at the first write that stands, that is, since
  which the key was not erased (`Born`); and so which of two keys comes first (`Before`).  Keys that
  came with one operation are ordered by their texts.

`describes_run` is the invariant of runs: every partition holds what the history says, in the order
that the history says.  It is carried by `describes_concat`, which adds one effect.
-/
import RecordStore.Catalog
import RecordStore.Proofs.Store.Run

namespace RecordStore

/-- What one operation does to the keys of the partitions: it erases first and then writes. -/
structure Effect where
  erases : (name key : String) → Prop
  writes : (name key : String) → Record → Prop

namespace History

/-- The history has a write of a record under a key at place `i`. -/
def WritesAt (h : List Effect) (i : Nat) (name key : String) (r : Record) : Prop :=
  ∃ e, h[i]? = some e ∧ e.writes name key r

/-- The history erases a key at a place after `i`. -/
def ErasedAfter (h : List Effect) (i : Nat) (name key : String) : Prop :=
  ∃ j e, i < j ∧ h[j]? = some e ∧ e.erases name key

/-- The last write under a key is of this record, and the key was not erased after it. -/
def Holds (h : List Effect) (name key : String) (r : Record) : Prop :=
  ∃ i, WritesAt h i name key r ∧ (∀ j r', i < j → ¬ WritesAt h j name key r') ∧
    ¬ ErasedAfter h i name key

/-- The write under a key at place `i` stands: the key was not erased after it. -/
def Stands (h : List Effect) (i : Nat) (name key : String) : Prop :=
  (∃ r, WritesAt h i name key r) ∧ ¬ ErasedAfter h i name key

/-- The write under a key at place `i` is the first one that stands. -/
def Born (h : List Effect) (i : Nat) (name key : String) : Prop :=
  Stands h i name key ∧ ∀ j < i, ¬ Stands h j name key

/-- One key of a partition came before another, or with it and has the lesser text. -/
def Before (h : List Effect) (name key other : String) : Prop :=
  ∃ i j, Born h i name key ∧ Born h j name other ∧ (i < j ∨ i = j ∧ key < other)

/-! ## One more effect -/

variable {h : List Effect} {e : Effect} {i : Nat} {name key other : String} {r : Record}

theorem getElem?_concat_eq_some_iff {x : Effect} :
    (h ++ [e])[i]? = some x ↔ h[i]? = some x ∨ i = h.length ∧ x = e := by
  rcases Nat.lt_trichotomy i h.length with hi | hi | hi
  · rw [List.getElem?_append_left hi]
    simp [Nat.ne_of_lt hi]
  · subst hi
    simp [eq_comm]
  · have hne : i ≠ h.length := by omega
    rw [List.getElem?_eq_none (by simp; omega), List.getElem?_eq_none (by omega)]
    simp [hne]

theorem lt_length_of_writesAt (hw : WritesAt h i name key r) : i < h.length := by
  obtain ⟨_, he, _⟩ := hw
  exact (List.getElem?_eq_some_iff.mp he).1

theorem not_erasedAfter_length : ¬ ErasedAfter h h.length name key := by
  rintro ⟨j, _, hj, he, _⟩
  have := (List.getElem?_eq_some_iff.mp he).1
  omega

theorem writesAt_concat :
    WritesAt (h ++ [e]) i name key r ↔
      WritesAt h i name key r ∨ i = h.length ∧ e.writes name key r := by
  unfold WritesAt
  constructor
  · rintro ⟨x, hx, hw⟩
    rcases getElem?_concat_eq_some_iff.mp hx with hx | ⟨rfl, rfl⟩
    · exact .inl ⟨x, hx, hw⟩
    · exact .inr ⟨rfl, hw⟩
  · rintro (⟨x, hx, hw⟩ | ⟨rfl, hw⟩)
    · exact ⟨x, getElem?_concat_eq_some_iff.mpr (.inl hx), hw⟩
    · exact ⟨e, getElem?_concat_eq_some_iff.mpr (.inr ⟨rfl, rfl⟩), hw⟩

theorem erasedAfter_concat :
    ErasedAfter (h ++ [e]) i name key ↔
      ErasedAfter h i name key ∨ i < h.length ∧ e.erases name key := by
  unfold ErasedAfter
  constructor
  · rintro ⟨j, x, hj, hx, he⟩
    rcases getElem?_concat_eq_some_iff.mp hx with hx | ⟨rfl, rfl⟩
    · exact .inl ⟨j, x, hj, hx, he⟩
    · exact .inr ⟨hj, he⟩
  · rintro (⟨j, x, hj, hx, he⟩ | ⟨hj, he⟩)
    · exact ⟨j, x, hj, getElem?_concat_eq_some_iff.mpr (.inl hx), he⟩
    · exact ⟨h.length, e, hj, getElem?_concat_eq_some_iff.mpr (.inr ⟨rfl, rfl⟩), he⟩

/-- A key holds what the last effect writes under it, or what it held before if the last effect
leaves the key alone. -/
theorem holds_concat :
    Holds (h ++ [e]) name key r ↔
      e.writes name key r ∨
        (∀ r', ¬ e.writes name key r') ∧ ¬ e.erases name key ∧ Holds h name key r := by
  constructor
  · rintro ⟨i, hw, hlast, hkept⟩
    rcases writesAt_concat.mp hw with hw | ⟨_, hw⟩
    · -- the last write is an old one, so the last effect leaves the key alone
      have hi : i < h.length := lt_length_of_writesAt hw
      have hnone : ∀ r', ¬ e.writes name key r' := by
        intro r' hw'
        exact hlast h.length r' hi (writesAt_concat.mpr (.inr ⟨rfl, hw'⟩))
      have hkeep : ¬ e.erases name key := by
        intro he
        exact hkept (erasedAfter_concat.mpr (.inr ⟨hi, he⟩))
      have hold : Holds h name key r := by
        refine ⟨i, hw, ?_, ?_⟩
        · intro j r' hj hw'
          exact hlast j r' hj (writesAt_concat.mpr (.inl hw'))
        · intro he
          exact hkept (erasedAfter_concat.mpr (.inl he))
      exact .inr ⟨hnone, hkeep, hold⟩
    · exact .inl hw
  · rintro (hw | ⟨hnone, hkeep, i, hw, hlast, hkept⟩)
    · -- nothing comes after the last effect
      refine ⟨h.length, writesAt_concat.mpr (.inr ⟨rfl, hw⟩), ?_, ?_⟩
      · intro j r' hj hw'
        rcases writesAt_concat.mp hw' with hw' | ⟨rfl, _⟩
        · have := lt_length_of_writesAt hw'
          omega
        · omega
      · intro he
        rcases erasedAfter_concat.mp he with he | ⟨hlt, _⟩
        · exact not_erasedAfter_length he
        · omega
    · refine ⟨i, writesAt_concat.mpr (.inl hw), ?_, ?_⟩
      · intro j r' hj hw'
        rcases writesAt_concat.mp hw' with hw' | ⟨_, hw'⟩
        · exact hlast j r' hj hw'
        · exact hnone r' hw'
      · intro he
        rcases erasedAfter_concat.mp he with he | ⟨_, he⟩
        · exact hkept he
        · exact hkeep he

theorem stands_concat :
    Stands (h ++ [e]) i name key ↔
      Stands h i name key ∧ ¬ e.erases name key ∨ i = h.length ∧ ∃ r, e.writes name key r := by
  constructor
  · rintro ⟨⟨r, hw⟩, hkept⟩
    rcases writesAt_concat.mp hw with hw | ⟨hi, hw⟩
    · have hstood : Stands h i name key := by
        refine ⟨⟨r, hw⟩, ?_⟩
        intro he
        exact hkept (erasedAfter_concat.mpr (.inl he))
      have hkeep : ¬ e.erases name key := by
        intro he
        exact hkept (erasedAfter_concat.mpr (.inr ⟨lt_length_of_writesAt hw, he⟩))
      exact .inl ⟨hstood, hkeep⟩
    · exact .inr ⟨hi, r, hw⟩
  · rintro (⟨⟨⟨r, hw⟩, hkept⟩, hkeep⟩ | ⟨rfl, r, hw⟩)
    · refine ⟨⟨r, writesAt_concat.mpr (.inl hw)⟩, ?_⟩
      intro he
      rcases erasedAfter_concat.mp he with he | ⟨_, he⟩
      · exact hkept he
      · exact hkeep he
    · refine ⟨⟨r, writesAt_concat.mpr (.inr ⟨rfl, hw⟩)⟩, ?_⟩
      intro he
      rcases erasedAfter_concat.mp he with he | ⟨hlt, _⟩
      · exact not_erasedAfter_length he
      · omega

theorem lt_length_of_stands (hs : Stands h i name key) : i < h.length := by
  obtain ⟨⟨r, hw⟩, _⟩ := hs
  exact lt_length_of_writesAt hw

/-- A key that is not erased keeps its place. -/
theorem born_concat_of_born (hb : Born h i name key) (he : ¬ e.erases name key) :
    Born (h ++ [e]) i name key := by
  have hi : i < h.length := lt_length_of_stands hb.1
  refine ⟨stands_concat.mpr (.inl ⟨hb.1, he⟩), ?_⟩
  intro j hj hs
  rcases stands_concat.mp hs with ⟨hs, _⟩ | ⟨rfl, _⟩
  · exact hb.2 j hj hs
  · omega

/-- A key that is written while no earlier write stands is born with the last effect. -/
theorem born_concat_of_writes (hw : e.writes name key r)
    (hfree : ∀ i, Stands h i name key → e.erases name key) :
    Born (h ++ [e]) h.length name key := by
  refine ⟨stands_concat.mpr (.inr ⟨rfl, r, hw⟩), ?_⟩
  intro j hj hs
  rcases stands_concat.mp hs with ⟨hs, hkeep⟩ | ⟨rfl, _⟩
  · exact hkeep (hfree j hs)
  · omega

theorem before_concat_of_before (hb : Before h name key other) (hkey : ¬ e.erases name key)
    (hother : ¬ e.erases name other) : Before (h ++ [e]) name key other := by
  obtain ⟨i, j, hi, hj, hlt⟩ := hb
  exact ⟨i, j, born_concat_of_born hi hkey, born_concat_of_born hj hother, hlt⟩

/-! ## Partitions that hold what a history says -/

/-- A partition holds the records that a history says, in the order that the history says. -/
structure Describes (h : List Effect) (name : String) (p : Partition) : Prop where
  lookup : ∀ key r, p.get? key = some r ↔ Holds h name key r
  present : ∀ i key, Stands h i name key → key ∈ p.keys
  born : ∀ key ∈ p.keys, ∃ i, Born h i name key
  order : p.keys.Pairwise (Before h name)

theorem describes_nil (name : String) : Describes [] name .empty where
  lookup key r := by simp [Holds, WritesAt]
  present i key hs := by simp [Stands, WritesAt] at hs
  born key hk := by simp at hk
  order := List.Pairwise.nil

theorem describes_concat {p q : Partition} (hp : Describes h name p)
    (hq : p.Updated q (e.erases name) (e.writes name)) : Describes (h ++ [e]) name q := by
  obtain ⟨kept, fresh, hkeys, hsub, hkept, hfresh⟩ := hq.order
  have hlookup : ∀ key r, q.get? key = some r ↔ Holds (h ++ [e]) name key r := by
    intro key r
    rw [hq.lookup, holds_concat, hp.lookup]
  -- a kept key has the place it had
  have hborn_kept : ∀ key ∈ kept, ∃ i, i < h.length ∧ Born (h ++ [e]) i name key := by
    intro key hk
    obtain ⟨hmem, hkeep⟩ := (hkept key).mp hk
    obtain ⟨i, hb⟩ := hp.born key hmem
    exact ⟨i, lt_length_of_stands hb.1, born_concat_of_born hb hkeep⟩
  -- a fresh key is written now and was not there, or has just been erased
  have hborn_fresh : ∀ key ∈ fresh, Born (h ++ [e]) h.length name key := by
    intro key hk
    have hmem : key ∈ q.keys := by
      rw [hkeys]
      exact List.mem_append_right _ hk
    have hnot : key ∉ kept := by
      have hnodup := q.keys_nodup
      rw [hkeys] at hnodup
      intro hkeep
      exact (List.nodup_append.mp hnodup).2.2 key hkeep key hk rfl
    obtain ⟨r, hr⟩ := Partition.mem_keys_iff.mp hmem
    rcases (hq.lookup key r).mp hr with hw | ⟨_, hkeep, hold⟩
    · apply born_concat_of_writes hw
      intro i hs
      apply Classical.byContradiction
      intro hkeep
      exact hnot ((hkept key).mpr ⟨hp.present i key hs, hkeep⟩)
    · exact absurd ((hkept key).mpr ⟨Partition.mem_keys_iff.mpr ⟨r, hold⟩, hkeep⟩) hnot
  refine ⟨hlookup, ?present, ?born, ?order⟩
  case present =>
    intro i key hs
    rcases stands_concat.mp hs with ⟨hs, hkeep⟩ | ⟨_, r, hw⟩
    · rw [hkeys]
      exact List.mem_append_left _ ((hkept key).mpr ⟨hp.present i key hs, hkeep⟩)
    · exact Partition.mem_keys_iff.mpr ⟨r, (hq.lookup key r).mpr (.inl hw)⟩
  case born =>
    intro key hk
    rw [hkeys] at hk
    rcases List.mem_append.mp hk with hk | hk
    · obtain ⟨i, _, hb⟩ := hborn_kept key hk
      exact ⟨i, hb⟩
    · exact ⟨h.length, hborn_fresh key hk⟩
  case order =>
    rw [hkeys]
    refine List.pairwise_append.mpr ⟨?kept, ?fresh, ?across⟩
    case kept =>
      apply (hp.order.sublist hsub).imp_of_mem
      intro key other hk ho hb
      exact before_concat_of_before hb ((hkept key).mp hk).2 ((hkept other).mp ho).2
    case fresh =>
      -- fresh keys all come with the last effect, so their texts decide
      apply hfresh.imp_of_mem
      intro key other hk ho hlt
      exact ⟨_, _, hborn_fresh key hk, hborn_fresh other ho, .inr ⟨rfl, hlt⟩⟩
    case across =>
      intro key hk other ho
      obtain ⟨i, hi, hb⟩ := hborn_kept key hk
      exact ⟨i, h.length, hb, hborn_fresh other ho, .inl hi⟩

end History

namespace Store

open History

/-! ## Runs -/

/-- What an operation does to the keys of a store. -/
def effect (s : Store) (op : Operation) : Effect := ⟨Erases s op, Writes s op⟩

/-- The history of a run of operations. -/
def history (s : Store) : List Operation → List Effect
  | [] => []
  | op :: ops => effect s op :: history (s.after op) ops

/-- The effect at a place of a history is that of the operation there on the store so far. -/
theorem getElem?_history (s : Store) (ops : List Operation) (i : Nat) :
    (history s ops)[i]? = (ops[i]?).map fun op => effect (s.run (ops.take i)) op := by
  induction ops generalizing s i with
  | nil => rfl
  | cons op ops ih =>
    cases i with
    | zero => rfl
    | succ i => exact ih (s.after op) i

/-- A run from a store that one history describes ends in a store that this history describes once
the run's own has been added to it. -/
theorem describes_run {name : String} (ops : List Operation) {s : Store} {h : List Effect}
    (hs : Describes h name (s.partition name)) :
    Describes (h ++ history s ops) name ((s.run ops).partition name) := by
  induction ops generalizing s h with
  | nil =>
    rw [history, List.append_nil]
    exact hs
  | cons op ops ih =>
    have hstep : Describes (h ++ [effect s op]) name ((s.after op).partition name) :=
      describes_concat hs (updated_after s op name)
    have hrun := ih hstep
    rw [List.append_assoc] at hrun
    exact hrun

theorem describes_empty (schema : Schema) (name : String) :
    Describes [] name ((empty schema).partition name) := by
  rw [partition_empty]
  exact describes_nil name

/-- After any run from the store without records, a type's partition holds under each key the record
that was last written there, unless the key was erased since; its records are visited in the order
in which their keys came to be there. -/
theorem run_holds_last_writes (schema : Schema) (ops : List Operation) {typeName : String}
    {t : EntityType} (ht : schema.resolve typeName = .ok t) :
    (∀ key, ∃ found, ((empty schema).run ops).get typeName key = .ok found ∧
      ∀ r, found = some r ↔ Holds (history (empty schema) ops) t.partition key r) ∧
    ∃ entries : List (String × Record),
      ((empty schema).run ops).query typeName none = .ok (entries.map Prod.snd) ∧
      ((empty schema).run ops).count typeName = .ok entries.length ∧
      (∀ key r, (key, r) ∈ entries ↔ Holds (history (empty schema) ops) t.partition key r) ∧
      (entries.map Prod.fst).Nodup ∧
      (entries.map Prod.fst).Pairwise (Before (history (empty schema) ops) t.partition) := by
  have hdescribes : Describes (history (empty schema) ops) t.partition
      (((empty schema).run ops).partition t.partition) :=
    describes_run ops (describes_empty schema t.partition)
  have hresolve : ((empty schema).run ops).schema.resolve typeName = .ok t := by
    rw [schema_run]
    exact ht
  refine ⟨?_, ?_⟩
  · intro key
    exact ⟨_, get_of_resolve hresolve key, hdescribes.lookup key⟩
  · refine ⟨_, query_none_of_resolve hresolve, count_of_resolve hresolve, ?_,
      Partition.keys_nodup _, hdescribes.order⟩
    intro key r
    rw [Partition.mem_entries_iff, hdescribes.lookup]

/-- Tags that arrive, leave and come back, and then a dataset with an old and a new one. -/
def tagArrivals : List Operation :=
  [.put (.ofType Catalog.tag (Record.empty.insert "value" (.text "games"))),
    .put (.ofType Catalog.tag (Record.empty.insert "value" (.text "art"))),
    .remove "Tag" "games",
    .put (.ofType Catalog.tag (Record.empty.insert "value" (.text "games"))),
    .load ((Dataset.empty.insert "tags" "math" .empty).insert "tags" "art" .empty)]

theorem tagArrivals_hold_last_writes :
    Catalog.builtIn.resolve "Tag" = .ok Catalog.tag ∧
    (((empty Catalog.builtIn).run tagArrivals).partition "tags").keys = ["art", "games", "math"] ∧
    (∀ key, ∃ found, ((empty Catalog.builtIn).run tagArrivals).get "Tag" key = .ok found ∧
      ∀ r, found = some r ↔ Holds (history (empty Catalog.builtIn) tagArrivals) "tags" key r) ∧
    ∃ entries : List (String × Record),
      ((empty Catalog.builtIn).run tagArrivals).query "Tag" none =
        .ok (entries.map Prod.snd) ∧
      ((empty Catalog.builtIn).run tagArrivals).count "Tag" = .ok entries.length ∧
      (∀ key r, (key, r) ∈ entries ↔
        Holds (history (empty Catalog.builtIn) tagArrivals) "tags" key r) ∧
      (entries.map Prod.fst).Nodup ∧
      (entries.map Prod.fst).Pairwise
        (Before (history (empty Catalog.builtIn) tagArrivals) "tags") := by
  have htag : Catalog.builtIn.resolve "Tag" = .ok Catalog.tag := rfl
  exact ⟨htag, by decide, run_holds_last_writes Catalog.builtIn tagArrivals htag⟩

end Store

end RecordStore
