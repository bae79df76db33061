/-
# RecordStore.Proofs.Store.CanonicalImage — what a store is written out as says just what it holds.

The dataset of a store is an image of its records by partition and key: it has an entry for every
record and for nothing else, lists no partition without records, and has as many records as the
partitions have together (`size_toDataset`).  Two stores have one dataset, and are then written as one
text, exactly if they hold the same record or none under every key of every partition, in whatever
order the records came and wherever the counters stand (`toDataset_is_canonical`).

Datasets are also compared up to numeric equality of their doubles, where both zeros are equal.  That
comparison goes through two sorted lists side by side; it too comes to a comparison of what is found
under each name (`Entries.forall₂_iff_get?`).
-/
import Mathlib.Data.List.Forall2
import RecordStore.Proofs.Store.Image
import RecordStore.Proofs.Store.Run
import RecordStore.Proofs.Store.Undeclared
import RecordStore.Catalog

namespace RecordStore

universe u v

/-! ## Sorted lists side by side -/

namespace Entries

variable {α : Type u} {β : Type v} {R : α → β → Prop}

/-- Two sorted lists agree place by place exactly if what they have under each name agrees. -/
theorem forall₂_iff_get? {l : List (String × α)} {k : List (String × β)}
    (hl : l.Pairwise (fun a b => a.1 < b.1)) (hk : k.Pairwise (fun a b => a.1 < b.1)) :
    List.Forall₂ (fun a b => a.1 = b.1 ∧ R a.2 b.2) l k ↔
      ∀ name, Option.Rel R (get? name l) (get? name k) := by
  constructor
  · intro h
    clear hl hk
    induction h with
    | nil => exact fun _ => .none
    | @cons a b l k hab _ ih =>
      intro name
      rw [get?, get?, ← hab.1]
      split
      · exact .some hab.2
      · exact ih name
  · intro h
    induction l generalizing k with
    | nil =>
      cases k with
      | nil => exact .nil
      | cons b k =>
        have hb := h b.1
        rw [get?, get?, if_pos rfl] at hb
        cases hb
    | cons a l ih =>
      cases k with
      | nil =>
        have ha := h a.1
        rw [get?, get?, if_pos rfl] at ha
        cases ha
      | cons b k =>
        obtain ⟨hal, hlt⟩ := List.pairwise_cons.mp hl
        obtain ⟨hbk, hkt⟩ := List.pairwise_cons.mp hk
        -- a first name that is smaller than the other would be found in one list alone
        have hname : a.1 = b.1 := by
          refine String.le_antisymm (String.not_lt.mp fun hba => ?_) (String.not_lt.mp fun hab => ?_)
          · have hb := h b.1
            rw [get?_eq_none_of_forall_lt (List.forall_mem_cons.mpr
              ⟨hba, fun e he => String.lt_trans hba (hal e he)⟩), get?, if_pos rfl] at hb
            cases hb
          · have ha := h a.1
            rw [get?_eq_none_of_forall_lt (l := b :: k) (List.forall_mem_cons.mpr
              ⟨hab, fun e he => String.lt_trans hab (hbk e he)⟩), get?, if_pos rfl] at ha
            cases ha
        have hvalue := h a.1
        rw [get?, get?, if_pos rfl, if_pos hname] at hvalue
        cases hvalue with
        | some hvalue =>
          refine .cons ⟨hname, hvalue⟩ (ih hlt hkt fun name => ?_)
          by_cases hn : name = a.1
          · subst hn
            rw [get?_eq_none_of_forall_lt hal, hname, get?_eq_none_of_forall_lt hbk]
            exact .none
          · have hrest := h name
            rwa [get?, get?, if_neg hn, if_neg (hname ▸ hn)] at hrest

/-- Of a list without repeated names whose values are replaced or dropped one by one, a name has
what its value was replaced by. -/
theorem get?_filterMap {l : List (String × α)} (hl : (l.map Prod.fst).Nodup) (f : α → Option β)
    (name : String) :
    get? name (l.filterMap fun e => (f e.2).map fun b => (e.1, b)) = (get? name l).bind f := by
  induction l with
  | nil => rfl
  | cons e l ih =>
    obtain ⟨hhead, htail⟩ := List.nodup_cons.mp hl
    rw [List.filterMap_cons, get?]
    by_cases hn : name = e.1
    · subst hn
      rw [if_pos rfl, Option.bind_some]
      cases hf : f e.2 with
      | none =>
        rw [Option.map_none, ih htail, get?_eq_none_iff.mpr hhead]
        rfl
      | some b => exact if_pos rfl
    · rw [if_neg hn, ← ih htail]
      cases f e.2 with
      | none => rfl
      | some b => exact if_neg hn

variable {α' : Type u} {β' : Type v} {o : Option α} {o' : Option β}

/-- What is found on two sides and then taken further is related as what was found. -/
theorem rel_map_iff {S : α' → β' → Prop} {f : α → α'} {g : β → β'} :
    Option.Rel S (o.map f) (o'.map g) ↔ Option.Rel (fun a b => S (f a) (g b)) o o' := by
  constructor
  · intro h
    cases o with
    | none =>
      cases o' with
      | none => exact .none
      | some b => cases h
    | some a =>
      cases o' with
      | none => cases h
      | some b =>
        cases h with
        | some h => exact .some h
  · rintro (h | _)
    · exact .some h
    · exact .none

theorem eq_none_iff_of_rel (h : Option.Rel R o o') : o = none ↔ o' = none := by
  cases h with
  | some _ => exact ⟨nofun, nofun⟩
  | none => exact ⟨fun _ => rfl, fun _ => rfl⟩

theorem rel_getD {a : α} {b : β} (h : Option.Rel R o o') (hdefault : R a b) :
    R (o.getD a) (o'.getD b) := by
  cases h with
  | some hvalue => exact hvalue
  | none => exact hdefault

end Entries

/-! ## Equality up to the doubles -/

namespace Json

/-- Members are compared place by place, name with name and value with value. -/
theorem sameMembers_iff {l k : List (String × Json)} :
    sameMembers l k = true ↔
      List.Forall₂ (fun a b => a.1 = b.1 ∧ a.2.same b.2 = true) l k := by
  induction l generalizing k with
  | nil => cases k <;> simp [sameMembers]
  | cons a l ih =>
    cases k with
    | nil => simp [sameMembers]
    | cons b k => simp [sameMembers, ih, and_assoc]

end Json

/-- Two maps of values are the same object if the values under each name are the same. -/
theorem Value.same_object_iff {m n : NameMap Value} :
    (Value.object m).same (Value.object n) = true ↔
      ∀ name, Option.Rel (fun v w => v.same w = true) (m.get? name) (n.get? name) := by
  have hmembers := Entries.forall₂_iff_get? (R := fun v w : Value => v.same w = true)
    m.ascending n.ascending
  show Json.sameMembers (m.map fun _ v => v.json).entries (n.map fun _ v => v.json).entries = true ↔ _
  rw [Json.sameMembers_iff, NameMap.map, NameMap.map, List.forall₂_map_left_iff,
    List.forall₂_map_right_iff]
  exact hmembers

namespace Dataset

variable {d e : Dataset}

/-- Two datasets are equal up to the doubles exactly if they have the same partitions, and in each the
same records under the same keys. -/
theorem same_iff :
    d.same e = true ↔ ∀ name, Option.Rel
      (fun m n => ∀ key, Option.Rel (fun r r' => r.same r' = true) (m.get? key) (n.get? key))
      (d.partitions.get? name) (e.partitions.get? name) := by
  simp only [same, toValue, Value.same_object_iff, NameMap.get?_map, Entries.rel_map_iff]
  rfl

end Dataset

/-! ## Partitions and their records -/

namespace Partition

/-- A partition has as many records by key as it lists. -/
theorem size_toNameMap (p : Partition) : p.toNameMap.size = p.size := by
  have hperm : p.toNameMap.entries.Perm p.entries := by
    have hnodup : p.toNameMap.entries.Nodup :=
      List.Pairwise.of_map Prod.fst (fun _ _ hne heq => hne (congrArg Prod.fst heq))
        (NameMap.nodup_of_ascending p.toNameMap.ascending)
    refine (List.perm_ext_iff_of_nodup hnodup p.entries_nodup).mpr ?_
    rintro ⟨key, r⟩
    rw [NameMap.mem_entries_iff, get?_toNameMap, mem_entries_iff]
  exact hperm.length_eq

/-- The records by key are as many as the partition lists; where there are none it lists none. -/
theorem size_eq_of_image? (p : Partition) :
    p.size = (p.image?.map NameMap.size).getD 0 := by
  unfold image?
  split
  · next hnil =>
    rw [size, hnil]
    rfl
  · exact p.size_toNameMap.symm

theorem image?_eq_none_iff {p : Partition} : p.image? = none ↔ ∀ key, p.get? key = none := by
  constructor
  · intro h key
    rw [← bind_image?_get?, h, Option.bind_none]
  · intro h
    cases hp : p.image? with
    | none => rfl
    | some records =>
      obtain ⟨key, r, hr⟩ := exists_get?_of_image? hp
      cases (h key).symm.trans hr

/-- Partitions as they are written out are related if their records are. -/
theorem rel_image?_iff {R : Record → Record → Prop} {p q : Partition} :
    Option.Rel (fun m n : NameMap Record => ∀ key, Option.Rel R (m.get? key) (n.get? key))
        p.image? q.image? ↔
      ∀ key, Option.Rel R (p.get? key) (q.get? key) := by
  simp only [← bind_image?_get?]
  constructor
  · intro h key
    generalize p.image? = m, q.image? = n at h
    cases h with
    | some h => exact h key
    | none => exact .none
  · intro h
    have hnone : p.image? = none ↔ q.image? = none := by
      simp only [image?_eq_none_iff, ← bind_image?_get?]
      exact forall_congr' fun key => Entries.eq_none_iff_of_rel (h key)
    cases hp : p.image? with
    | none =>
      rw [hnone.mp hp]
      exact .none
    | some m =>
      cases hq : q.image? with
      | none => cases hp.symm.trans (hnone.mpr hq)
      | some n =>
        rw [hp, hq] at h
        exact .some h

end Partition

namespace Store

variable {s s' : Store}

/-- A store is written out partition by partition, without those that have no records. -/
theorem entries_toDataset (s : Store) :
    s.toDataset.partitions.entries =
      s.partitions.entries.filterMap fun e => e.2.image?.map fun records => (e.1, records) := by
  refine NameMap.eq_of_get?_eq s.toDataset.partitions.ascending ?ascending fun name => ?lookup
  case ascending =>
    refine List.Pairwise.filterMap _ ?_ s.partitions.ascending
    intro a b hab c hc e he
    obtain ⟨_, _, rfl⟩ := Option.map_eq_some_iff.mp hc
    obtain ⟨_, _, rfl⟩ := Option.map_eq_some_iff.mp he
    exact hab
  case lookup =>
    rw [Entries.get?_filterMap (NameMap.nodup_of_ascending s.partitions.ascending)]
    show s.toDataset.partitions.get? name = (s.partitions.get? name).bind Partition.image?
    rw [partitions_toDataset, partition]
    cases s.partitions.get? name <;> rfl

/-- The dataset of a store has as many records as the partitions of the store have together. -/
theorem size_toDataset (s : Store) :
    s.toDataset.size = s.partitions.values.foldl (fun n p => n + p.size) 0 := by
  rw [Dataset.size, NameMap.values, NameMap.values, entries_toDataset]
  generalize s.partitions.entries = l, (0 : Nat) = n
  induction l generalizing n with
  | nil => rfl
  | cons e l ih =>
    rw [List.filterMap_cons, List.map_cons, List.foldl_cons, e.2.size_eq_of_image?]
    cases e.2.image? with
    | none => exact ih n
    | some records => exact ih (n + records.size)

/-- No partition of the dataset of a store is without records. -/
theorem entries_ne_nil_of_toDataset {name : String} {records : NameMap Record}
    (h : s.toDataset.partitions.get? name = some records) : records.entries ≠ [] := by
  intro hnil
  rw [partitions_toDataset] at h
  obtain ⟨key, r, hr⟩ := Partition.exists_get?_of_image? h
  have hlookup := (s.partition name).bind_image?_get? key
  rw [h, hr, Option.bind_some, NameMap.get?, hnil] at hlookup
  cases hlookup

theorem toDataset_eq_iff :
    s.toDataset = s'.toDataset ↔
      ∀ name key, (s.partition name).get? key = (s'.partition name).get? key := by
  constructor
  · intro h name key
    rw [← get?_toDataset, ← get?_toDataset, h]
  · exact toDataset_congr

/-- The datasets of two stores are equal up to the doubles exactly if the records of the stores are. -/
theorem same_toDataset_iff :
    s.toDataset.same s'.toDataset = true ↔ ∀ name key,
      Option.Rel (fun r r' => r.same r' = true)
        ((s.partition name).get? key) ((s'.partition name).get? key) := by
  simp only [Dataset.same_iff, partitions_toDataset, Partition.rel_image?_iff]

/-- Two stores are written out as one dataset, and as one text, exactly if they hold the same record
or none under every key of every partition.  Nothing else of their histories shows: neither the order
in which records arrived, nor the counter, nor a partition that has lost its records.  The datasets
compare as equal, up to the doubles, exactly if the records do.

The dataset has an entry for each record of the store and no other, lists no partition without
records, and has as many records as the partitions of the store have together. -/
theorem toDataset_is_canonical (s s' : Store) :
    (s.toDataset = s'.toDataset ↔
      ∀ name key, (s.partition name).get? key = (s'.partition name).get? key) ∧
    ((∀ name key, (s.partition name).get? key = (s'.partition name).get? key) →
      s.toDataset.text = s'.toDataset.text) ∧
    (s.toDataset.same s'.toDataset = true ↔ ∀ name key,
      Option.Rel (fun r r' => r.same r' = true)
        ((s.partition name).get? key) ((s'.partition name).get? key)) ∧
    (∀ name key r, s.toDataset.get? name key = some r ↔ (s.partition name).get? key = some r) ∧
    (∀ name records, s.toDataset.partitions.get? name = some records → records.entries ≠ []) ∧
    s.toDataset.size = s.partitions.values.foldl (fun n p => n + p.size) 0 := by
  refine ⟨toDataset_eq_iff, ?text, same_toDataset_iff, ?entries, ?listed, size_toDataset s⟩
  case text =>
    intro h
    rw [toDataset_congr h]
  case entries =>
    intro name key r
    rw [get?_toDataset]
  case listed =>
    intro name records h
    exact entries_ne_nil_of_toDataset h

/-- Two tags, put in the reverse order of their keys after a visitor that leaves again. -/
def tagsByHand : List Operation :=
  [.put (.ofType Catalog.user .empty),
    .put (.ofType Catalog.tag (Record.empty.insert "value" (.text "zoo"))),
    .put (.ofType Catalog.tag (Record.empty.insert "value" (.text "art"))),
    .remove "User" "0"]

/-- The same tags from a dataset. -/
def tagsFromDataset : List Operation :=
  [.load ((Dataset.empty.insert "tags" "art" .empty).insert "tags" "zoo" .empty)]

theorem tagsByHand_same_image :
    let s := (empty Catalog.builtIn).run tagsByHand
    let s' := (empty Catalog.builtIn).run tagsFromDataset
    (s.partition "tags").keys = ["zoo", "art"] ∧ (s'.partition "tags").keys = ["art", "zoo"] ∧
    s.counter.next = 1 ∧ s'.counter.next = 0 ∧
    s.partitions.names = ["apps", "tags", "visitors"] ∧ s.toDataset.partitions.names = ["tags"] ∧
    s.toDataset.size = 2 ∧
    (∀ name key, (s.partition name).get? key = (s'.partition name).get? key) ∧
    s.toDataset.text = s'.toDataset.text := by
  intro s s'
  obtain ⟨hequal, htext, _, _, _, hsize⟩ := toDataset_is_canonical s s'
  have hsame := hequal.mp (by decide +kernel)
  exact ⟨by decide, by decide, by decide, by decide, by decide, by decide +kernel,
    hsize.trans (by decide), hsame, htext hsame⟩

end Store

end RecordStore
