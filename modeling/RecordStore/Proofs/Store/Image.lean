/-
# RecordStore.Proofs.Store.Image — the dataset that a store is written out as.

`toDataset` walks through the partitions and through the records of each.  What comes of it is said
here by look-ups alone: the dataset has a record under a partition and a key exactly where the store
has it (`get?_toDataset`), and it does not list partitions without records (`mem_names_toDataset`).
So stores that look up the same have the same dataset, in whatever order their records arrived
(`toDataset_congr`).

The order is all that such stores can differ in: partitions that look up the same are permutations
of each other (`entries_perm`).
-/
import RecordStore.Store

namespace RecordStore

namespace NameMap

universe u

variable {α : Type u}

/-- Of several values inserted one after another under different names each is found again. -/
theorem get?_foldl_insert {l : List (String × α)} (hl : (l.map Prod.fst).Nodup) (m : NameMap α)
    (name : String) :
    (l.foldl (fun m e => m.insert e.1 e.2) m).get? name =
      (Entries.get? name l).or (m.get? name) := by
  induction l generalizing m with
  | nil => rfl
  | cons e rest ih =>
    obtain ⟨hhead, htail⟩ := List.nodup_cons.mp hl
    rw [List.foldl_cons, ih htail, get?_insert, Entries.get?]
    by_cases hn : name = e.1
    · subst hn
      rw [Entries.get?_eq_none_iff.mpr hhead]
      simp
    · simp [hn]

end NameMap

/-! ## Partitions without their order -/

namespace Partition

variable {p q : Partition}

/-- The records of a partition by key. -/
def toNameMap (p : Partition) : NameMap Record :=
  p.entries.foldl (fun m e => m.insert e.1 e.2) .empty

/-- The records of a partition by key, if there are any. -/
def image? (p : Partition) : Option (NameMap Record) :=
  if p.entries = [] then none else some p.toNameMap

theorem get?_toNameMap (p : Partition) (key : String) : p.toNameMap.get? key = p.get? key := by
  rw [toNameMap, NameMap.get?_foldl_insert p.nodup, NameMap.get?_empty, Option.or_none]
  rfl

theorem entries_nodup (p : Partition) : p.entries.Nodup :=
  List.Pairwise.of_map Prod.fst (fun _ _ hne heq => hne (congrArg Prod.fst heq)) p.nodup

/-- Partitions that look up the same list the same entries, in some order. -/
theorem entries_perm (h : ∀ key, p.get? key = q.get? key) : p.entries.Perm q.entries := by
  refine (List.perm_ext_iff_of_nodup p.entries_nodup q.entries_nodup).mpr ?_
  rintro ⟨key, r⟩
  rw [mem_entries_iff, mem_entries_iff, h]

theorem records_perm (h : ∀ key, p.get? key = q.get? key) : p.records.Perm q.records :=
  (entries_perm h).map Prod.snd

theorem image?_congr (h : ∀ key, p.get? key = q.get? key) : p.image? = q.image? := by
  have hmap : p.toNameMap = q.toNameMap := by
    apply NameMap.ext_get?
    intro key
    rw [get?_toNameMap, get?_toNameMap, h]
  have hnil : p.entries = [] ↔ q.entries = [] := by
    constructor
    · intro hp
      have hperm := entries_perm h
      rw [hp] at hperm
      exact hperm.nil_eq.symm
    · intro hq
      have hperm := entries_perm h
      rw [hq] at hperm
      exact hperm.eq_nil
  simp only [image?, hmap, hnil]

/-- The records by key look up what the partition does, whether there are any or not. -/
theorem bind_image?_get? (p : Partition) (key : String) :
    (p.image?.bind fun records => records.get? key) = p.get? key := by
  unfold image?
  split
  · rename_i hnil
    simp [get?, hnil, Entries.get?]
  · exact p.get?_toNameMap key

/-- A partition of which there are records by key has one of them. -/
theorem exists_get?_of_image? {records : NameMap Record} (h : p.image? = some records) :
    ∃ key r, p.get? key = some r := by
  unfold image? at h
  split at h
  · cases h
  · rename_i hne
    obtain ⟨⟨key, r⟩, he⟩ := List.exists_mem_of_ne_nil _ hne
    exact ⟨key, r, mem_entries_iff.mp he⟩

end Partition

/-! ## Partitions in a dataset -/

namespace Dataset

/-- Adding records of one partition changes nothing but what the dataset has for it. -/
theorem partitions_foldl_insert (name other : String) (l : List (String × Record)) (d : Dataset) :
    (l.foldl (fun d e => d.insert name e.1 e.2) d).partitions.get? other =
      if other = name ∧ l ≠ [] then
        some (l.foldl (fun m e => m.insert e.1 e.2) ((d.partitions.get? name).getD .empty))
      else d.partitions.get? other := by
  induction l generalizing d with
  | nil => simp
  | cons e rest ih =>
    rw [List.foldl_cons, ih]
    by_cases ho : other = name
    · subst ho
      cases rest <;> simp [insert]
    · simp [ho, insert, NameMap.get?_insert]

/-- Adding partitions one after another to a dataset that has none of them adds their records by
key. -/
theorem partitions_foldl_foldl {l : List (String × Partition)} (hl : (l.map Prod.fst).Nodup)
    (d : Dataset) (hd : ∀ name ∈ l.map Prod.fst, d.partitions.get? name = none) (other : String) :
    (l.foldl (fun d p => p.2.entries.foldl (fun d e => d.insert p.1 e.1 e.2) d)
        d).partitions.get? other =
      ((Entries.get? other l).bind Partition.image?).or (d.partitions.get? other) := by
  induction l generalizing d with
  | nil => rfl
  | cons p rest ih =>
    obtain ⟨hhead, htail⟩ := List.nodup_cons.mp hl
    have hfirst : d.partitions.get? p.1 = none := hd p.1 (by simp)
    have hrest : ∀ name ∈ rest.map Prod.fst,
        (p.2.entries.foldl (fun d e => d.insert p.1 e.1 e.2) d).partitions.get? name = none := by
      intro name hname
      have hne : name ≠ p.1 := fun heq => hhead (heq ▸ hname)
      rw [partitions_foldl_insert, if_neg (by simp [hne])]
      exact hd name (List.mem_cons_of_mem _ hname)
    rw [List.foldl_cons, ih htail _ hrest, partitions_foldl_insert, Entries.get?]
    by_cases ho : other = p.1
    · subst ho
      rw [Entries.get?_eq_none_iff.mpr hhead, hfirst]
      simp [Partition.image?, Partition.toNameMap]
    · simp [ho]

end Dataset

/-! ## The dataset of a store -/

namespace Store

variable {s s' : Store}

theorem partitions_toDataset (s : Store) (name : String) :
    s.toDataset.partitions.get? name = (s.partition name).image? := by
  rw [toDataset, Dataset.partitions_foldl_foldl
    (NameMap.nodup_of_ascending s.partitions.ascending) .empty fun _ _ => rfl]
  show (((s.partitions.get? name).bind Partition.image?).or none) = _
  cases h : s.partitions.get? name with
  | none =>
    rw [partition, h]
    rfl
  | some p =>
    rw [partition, h]
    exact Option.or_none

/-- The dataset of a store has a record exactly where the store has it. -/
theorem get?_toDataset (s : Store) (name key : String) :
    s.toDataset.get? name key = (s.partition name).get? key := by
  rw [Dataset.get?, partitions_toDataset]
  exact (s.partition name).bind_image?_get? key

/-- A dataset of a store lists no partition without records. -/
theorem mem_names_toDataset {name : String} (h : name ∈ s.toDataset.partitions.names) :
    ∃ key r, (s.partition name).get? key = some r := by
  obtain ⟨records, hrecords⟩ := NameMap.contains_iff.mp (NameMap.mem_names_iff.mp h)
  rw [partitions_toDataset] at hrecords
  exact Partition.exists_get?_of_image? hrecords

/-- Stores that look up the same have the same dataset. -/
theorem toDataset_congr
    (h : ∀ name key, (s.partition name).get? key = (s'.partition name).get? key) :
    s.toDataset = s'.toDataset := by
  have hpartitions : s.toDataset.partitions = s'.toDataset.partitions := by
    apply NameMap.ext_get?
    intro name
    rw [partitions_toDataset, partitions_toDataset]
    exact Partition.image?_congr (h name)
  exact congrArg Dataset.mk hpartitions

end Store

end RecordStore
