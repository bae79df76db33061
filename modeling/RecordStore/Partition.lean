/-
# RecordStore.Partition — the records of one partition in the order of their arrival.

A partition lists records by key.  A record whose key is new goes to the end; one whose key is
present takes the place of the record it replaces; a removed record leaves no gap, and its key, if
it comes back, goes to the end again.  No key is listed twice, which the type records.
-/
import RecordStore.Entries
import RecordStore.Record

namespace RecordStore

/-- The records of a partition with their keys, in visiting order. -/
structure Partition where
  entries : List (String × Record)
  nodup : (entries.map Prod.fst).Nodup

namespace Partition

/-! ## Lists of entries -/

/-- A list of entries with the record of a key replaced in its place, or added at the end. -/
def store (key : String) (record : Record) : List (String × Record) → List (String × Record)
  | [] => [(key, record)]
  | entry :: rest =>
    if key = entry.1 then (key, record) :: rest else entry :: store key record rest

theorem mem_keys_store {key other : String} {record : Record} {l : List (String × Record)} :
    other ∈ (store key record l).map Prod.fst ↔ other = key ∨ other ∈ l.map Prod.fst := by
  induction l with
  | nil => simp [store]
  | cons entry rest ih =>
    by_cases h : key = entry.1
    · simp [store, h]
    · rw [store, if_neg h, List.map_cons, List.map_cons, List.mem_cons, List.mem_cons, ih]
      exact or_left_comm

theorem nodup_store {key : String} {record : Record} {l : List (String × Record)}
    (h : (l.map Prod.fst).Nodup) : ((store key record l).map Prod.fst).Nodup := by
  induction l with
  | nil => simp [store]
  | cons entry rest ih =>
    obtain ⟨hhead, htail⟩ := List.nodup_cons.mp h
    by_cases hk : key = entry.1
    · simpa [store, hk] using h
    · rw [store, if_neg hk, List.map_cons, List.nodup_cons, mem_keys_store]
      exact ⟨fun hm => hm.elim (fun heq => hk heq.symm) hhead, ih htail⟩

theorem get?_store {key other : String} {record : Record} {l : List (String × Record)} :
    Entries.get? other (store key record l) =
      if other = key then some record else Entries.get? other l := by
  induction l with
  | nil => rfl
  | cons entry rest ih =>
    by_cases hk : key = entry.1
    · by_cases ho : other = key <;> simp [store, Entries.get?, ← hk, ho]
    · by_cases ho : other = entry.1
      · subst ho
        simp [store, Entries.get?, hk, Ne.symm hk]
      · simp [store, Entries.get?, hk, ho, ih]

theorem map_fst_store {key : String} {record : Record} {l : List (String × Record)} :
    (store key record l).map Prod.fst =
      if key ∈ l.map Prod.fst then l.map Prod.fst else l.map Prod.fst ++ [key] := by
  induction l with
  | nil => simp [store]
  | cons entry rest ih =>
    by_cases hk : key = entry.1
    · simp [store, hk]
    · rw [store, if_neg hk, List.map_cons, ih]
      by_cases hm : key ∈ rest.map Prod.fst <;> simp [hk, hm]

/-- Storing the record that a key has already changes nothing. -/
theorem store_of_get? {key : String} {record : Record} {l : List (String × Record)}
    (h : Entries.get? key l = some record) : store key record l = l := by
  induction l with
  | nil => cases h
  | cons entry rest ih =>
    rw [Entries.get?] at h
    by_cases hk : key = entry.1
    · rw [if_pos hk] at h
      obtain rfl := Option.some.inj h
      rw [store, if_pos hk, hk]
    · rw [if_neg hk] at h
      rw [store, if_neg hk, ih h]

/-! ## Operations -/

/-- The partition without records. -/
def empty : Partition := ⟨[], List.nodup_nil⟩

instance : Inhabited Partition := ⟨empty⟩

/-- The keys in visiting order. -/
def keys (p : Partition) : List String := p.entries.map Prod.fst

/-- The records in visiting order. -/
def records (p : Partition) : List Record := p.entries.map Prod.snd

/-- The record of a key. -/
def get? (p : Partition) (key : String) : Option Record := Entries.get? key p.entries

/-- Whether the partition has a record of a key. -/
def contains (p : Partition) (key : String) : Bool := (p.get? key).isSome

/-- The number of records. -/
def size (p : Partition) : Nat := p.entries.length

/-- The partition with a record under a key, which keeps its place if it has one. -/
def insert (p : Partition) (key : String) (record : Record) : Partition :=
  ⟨store key record p.entries, nodup_store p.nodup⟩

/-- The partition without a record under a key. -/
def erase (p : Partition) (key : String) : Partition :=
  ⟨p.entries.filter (fun e => e.1 ≠ key), (List.filter_sublist.map _).nodup p.nodup⟩

/-! ## Looking up -/

@[simp] theorem get?_empty (key : String) : empty.get? key = none := rfl

theorem get?_insert (p : Partition) (key other : String) (record : Record) :
    (p.insert key record).get? other = if other = key then some record else p.get? other :=
  get?_store

theorem insert_of_get? {p : Partition} {key : String} {record : Record}
    (h : p.get? key = some record) : p.insert key record = p := by
  obtain ⟨l, hl⟩ := p
  have hentries : store key record l = l := store_of_get? h
  simp only [insert, hentries]

theorem mem_entries_iff {p : Partition} {key : String} {record : Record} :
    (key, record) ∈ p.entries ↔ p.get? key = some record :=
  Entries.mem_iff_get? p.nodup

theorem get?_erase (p : Partition) (key other : String) :
    (p.erase key).get? other = if other = key then none else p.get? other := by
  obtain ⟨l, hl⟩ := p
  simp only [get?, erase]
  clear hl
  induction l with
  | nil => simp [Entries.get?]
  | cons entry rest ih =>
    by_cases he : entry.1 = key
    · subst he
      by_cases ho : other = entry.1 <;> simp_all [Entries.get?]
    · by_cases ho : other = entry.1
      · subst ho
        simp [Entries.get?, he]
      · simp_all [Entries.get?]

/-! ## Visiting order -/

theorem keys_nodup (p : Partition) : p.keys.Nodup := p.nodup

theorem mem_keys_iff {p : Partition} {key : String} :
    key ∈ p.keys ↔ ∃ record, p.get? key = some record := by
  rw [keys, ← Entries.isSome_get?, Option.isSome_iff_exists]
  rfl

@[simp] theorem keys_empty : empty.keys = [] := rfl

/-- A key that is present keeps its place, a new one goes to the end. -/
theorem keys_insert (p : Partition) (key : String) (record : Record) :
    (p.insert key record).keys = if key ∈ p.keys then p.keys else p.keys ++ [key] :=
  map_fst_store

/-- A partition is known from its two views, the keys in visiting order and the record of each. -/
theorem ext_keys_get? {p q : Partition} (hkeys : p.keys = q.keys)
    (h : ∀ key, p.get? key = q.get? key) : p = q := by
  have hentries : p.entries = q.entries := Entries.eq_of_get?_eq p.nodup hkeys h
  cases p
  cases q
  cases hentries
  rfl

theorem keys_erase (p : Partition) (key : String) :
    (p.erase key).keys = p.keys.filter (fun k => k ≠ key) := by
  simp only [keys, erase, List.filter_map]
  rfl

/-! ## Changes of one key, and of two -/

section Changes

variable {p : Partition} {key other : String}

/-- Of two records put under one key the second is left. -/
theorem insert_insert (p : Partition) (key : String) (record record' : Record) :
    (p.insert key record).insert key record' = p.insert key record' := by
  apply ext_keys_get?
  · by_cases h : key ∈ p.keys <;> simp [keys_insert, h]
  · intro other
    by_cases h : other = key <;> simp [get?_insert, h]

theorem erase_insert (p : Partition) (key : String) (record : Record) :
    (p.insert key record).erase key = p.erase key := by
  apply ext_keys_get?
  · by_cases h : key ∈ p.keys <;> simp [keys_erase, keys_insert, h]
  · intro other
    by_cases h : other = key <;> simp [get?_erase, get?_insert, h]

theorem erase_of_get?_eq_none (h : p.get? key = none) : p.erase key = p := by
  have habsent : key ∉ p.keys := by
    rw [mem_keys_iff, h]
    simp
  apply ext_keys_get?
  · rw [keys_erase, List.filter_eq_self]
    intro k hk
    have hne : k ≠ key := fun heq => habsent (heq ▸ hk)
    simpa using hne
  · intro other
    by_cases ho : other = key <;> simp [get?_erase, ho, h]

theorem erase_erase (p : Partition) (key : String) : (p.erase key).erase key = p.erase key := by
  apply erase_of_get?_eq_none
  rw [get?_erase, if_pos rfl]

/-- A key that is removed and put again goes to the end. -/
theorem keys_insert_erase (p : Partition) (key : String) (record : Record) :
    ((p.erase key).insert key record).keys = p.keys.filter (fun k => k ≠ key) ++ [key] := by
  simp [keys_insert, keys_erase]

/-- Removing one key commutes with putting a record under another. -/
theorem erase_insert_of_ne (p : Partition) (record : Record) (h : key ≠ other) :
    (p.insert key record).erase other = (p.erase other).insert key record := by
  apply ext_keys_get?
  · by_cases hk : key ∈ p.keys <;> simp [keys_erase, keys_insert, hk, h]
  · intro k
    by_cases hk : k = key <;> by_cases ho : k = other <;> simp_all [get?_erase, get?_insert]

theorem erase_comm (p : Partition) (key other : String) :
    (p.erase key).erase other = (p.erase other).erase key := by
  apply ext_keys_get?
  · simp only [keys_erase, List.filter_filter, Bool.and_comm]
  · intro k
    by_cases hk : k = key <;> by_cases ho : k = other <;> simp [get?_erase, hk, ho]

end Changes

end Partition

end RecordStore
