/-
# RecordStore.NameMap — finite maps keyed by name, kept in ascending order of name.

Records, schemas, datasets and the partitions of a store are all maps from names.  Wherever their
order shows it is the order of code points of the names, which is also the order of their UTF-8
bytes.  `NameMap α` therefore lists its entries by strictly ascending name and carries the proof,
so a map is determined by what it looks up (`ext_get?`) and listing it needs no sorting.

`insert` replaces the value of a name that is present.  In `ofList` the last of several entries
with one name counts.
-/
import RecordStore.Entries

namespace RecordStore

universe u v

/-- A map from names to `α`, as its entries by strictly ascending name. -/
structure NameMap (α : Type u) where
  entries : List (String × α)
  ascending : entries.Pairwise (fun a b => a.1 < b.1)
deriving DecidableEq

namespace NameMap

variable {α : Type u} {β : Type v}

/-! ## Sorted lists of entries -/

/-- A sorted list of entries with the value of `name` set to `value`. -/
def place (name : String) (value : α) : List (String × α) → List (String × α)
  | [] => [(name, value)]
  | entry :: rest =>
    if name < entry.1 then (name, value) :: entry :: rest
    else if name = entry.1 then (name, value) :: rest
    else entry :: place name value rest

/-- A sorted list of entries with the value of `name` set to `value`, unless it has one. -/
def placeNew (name : String) (value : α) : List (String × α) → List (String × α)
  | [] => [(name, value)]
  | entry :: rest =>
    if name < entry.1 then (name, value) :: entry :: rest
    else if name = entry.1 then entry :: rest
    else entry :: placeNew name value rest

theorem fst_of_mem_place {name : String} {value : α} {l : List (String × α)} {e : String × α}
    (h : e ∈ place name value l) : e.1 = name ∨ e ∈ l := by
  induction l with
  | nil => simp only [place, List.mem_singleton] at h; simp [h]
  | cons entry rest ih =>
    simp only [place] at h
    split at h
    · rcases List.mem_cons.mp h with h | h
      · exact .inl (by rw [h])
      · exact .inr h
    · split at h
      · rcases List.mem_cons.mp h with h | h
        · exact .inl (by rw [h])
        · exact .inr (List.mem_cons_of_mem _ h)
      · rcases List.mem_cons.mp h with h | h
        · exact .inr (h ▸ List.mem_cons_self)
        · exact (ih h).imp id (List.mem_cons_of_mem _)

theorem ascending_place {name : String} {value : α} {l : List (String × α)}
    (h : l.Pairwise (fun a b => a.1 < b.1)) :
    (place name value l).Pairwise (fun a b => a.1 < b.1) := by
  induction l with
  | nil => simp [place]
  | cons entry rest ih =>
    obtain ⟨hhead, htail⟩ := List.pairwise_cons.mp h
    simp only [place]
    split
    · rename_i hlt
      refine List.pairwise_cons.mpr ⟨fun e he => ?_, h⟩
      rcases List.mem_cons.mp he with he | he
      · rw [he]; exact hlt
      · exact String.lt_trans hlt (hhead e he)
    · split
      · rename_i heq
        exact List.pairwise_cons.mpr ⟨fun e he => heq ▸ hhead e he, htail⟩
      · rename_i hnlt hne
        refine List.pairwise_cons.mpr ⟨fun e he => ?_, ih htail⟩
        rcases fst_of_mem_place he with he | he
        · rw [he]
          exact Std.lt_of_le_of_ne (String.not_lt.mp hnlt) (fun h => hne h.symm)
        · exact hhead e he

theorem mem_of_mem_placeNew {name : String} {value : α} {l : List (String × α)} {e : String × α}
    (h : e ∈ placeNew name value l) : e = (name, value) ∨ e ∈ l := by
  induction l with
  | nil => exact .inl (List.mem_singleton.mp h)
  | cons entry rest ih =>
    simp only [placeNew] at h
    split at h
    · exact List.mem_cons.mp h
    · split at h
      · exact .inr h
      · rcases List.mem_cons.mp h with h | h
        · exact .inr (h ▸ List.mem_cons_self)
        · exact (ih h).imp id (List.mem_cons_of_mem _)

theorem ascending_placeNew {name : String} {value : α} {l : List (String × α)}
    (h : l.Pairwise (fun a b => a.1 < b.1)) :
    (placeNew name value l).Pairwise (fun a b => a.1 < b.1) := by
  induction l with
  | nil => simp [placeNew]
  | cons entry rest ih =>
    obtain ⟨hhead, htail⟩ := List.pairwise_cons.mp h
    simp only [placeNew]
    split
    · rename_i hlt
      refine List.pairwise_cons.mpr ⟨fun e he => ?_, h⟩
      rcases List.mem_cons.mp he with he | he
      · rw [he]; exact hlt
      · exact String.lt_trans hlt (hhead e he)
    · split
      · exact h
      · rename_i hnlt hne
        refine List.pairwise_cons.mpr ⟨fun e he => ?_, ih htail⟩
        rcases mem_of_mem_placeNew he with he | he
        · rw [he]
          exact Std.lt_of_le_of_ne (String.not_lt.mp hnlt) (fun h => hne h.symm)
        · exact hhead e he

/-! ## Operations -/

/-- The map without entries. -/
def empty : NameMap α := ⟨[], List.Pairwise.nil⟩

instance : Inhabited (NameMap α) := ⟨empty⟩

/-- The value of `name`, if the map has one. -/
def get? (m : NameMap α) (name : String) : Option α := Entries.get? name m.entries

/-- Whether the map has a value for `name`. -/
def contains (m : NameMap α) (name : String) : Bool := (m.get? name).isSome

/-- The map with the value of `name` set to `value`. -/
def insert (m : NameMap α) (name : String) (value : α) : NameMap α :=
  ⟨place name value m.entries, ascending_place m.ascending⟩

/-- The map without a value for `name`. -/
def erase (m : NameMap α) (name : String) : NameMap α :=
  ⟨m.entries.filter (fun e => e.1 ≠ name), m.ascending.filter _⟩

/-- The map with the value of `name` set to `value`, unless `name` has one already. -/
def insertNew (m : NameMap α) (name : String) (value : α) : NameMap α :=
  ⟨placeNew name value m.entries, ascending_placeNew m.ascending⟩

/-- The map of a list of entries, in which the last entry of each name counts. -/
def ofList (l : List (String × α)) : NameMap α :=
  l.foldr (fun e m => m.insertNew e.1 e.2) empty

/-- The names that have a value, in ascending order. -/
def names (m : NameMap α) : List String := m.entries.map Prod.fst

/-- The values, in ascending order of their names. -/
def values (m : NameMap α) : List α := m.entries.map Prod.snd

/-- The number of names that have a value. -/
def size (m : NameMap α) : Nat := m.entries.length

/-- The map with `f` applied to each name and value. -/
def map (f : String → α → β) (m : NameMap α) : NameMap β :=
  ⟨m.entries.map (fun e => (e.1, f e.1 e.2)), List.pairwise_map.mpr m.ascending⟩

/-! ## Looking up -/

theorem get?_place {name other : String} {value : α} {l : List (String × α)} :
    Entries.get? other (place name value l) =
      if other = name then some value else Entries.get? other l := by
  induction l with
  | nil => rfl
  | cons entry rest ih =>
    rw [place]
    split
    · rfl
    · split
      · rename_i heq
        by_cases h : other = name <;> simp [Entries.get?, ← heq, h]
      · rename_i hne
        by_cases h : other = entry.1
        · subst h
          simp [Entries.get?, Ne.symm hne]
        · simp [Entries.get?, h, ih]

@[simp] theorem get?_empty (name : String) : (empty : NameMap α).get? name = none := rfl

theorem get?_insert (m : NameMap α) (name other : String) (value : α) :
    (m.insert name value).get? other = if other = name then some value else m.get? other :=
  get?_place

@[simp] theorem get?_insert_self (m : NameMap α) (name : String) (value : α) :
    (m.insert name value).get? name = some value := by
  simp [get?_insert]

theorem get?_erase (m : NameMap α) (name other : String) :
    (m.erase name).get? other = if other = name then none else m.get? other := by
  obtain ⟨l, hl⟩ := m
  simp only [get?, erase]
  clear hl
  induction l with
  | nil => simp [Entries.get?]
  | cons entry rest ih =>
    by_cases he : entry.1 = name
    · subst he
      by_cases ho : other = entry.1 <;> simp_all [Entries.get?]
    · by_cases ho : other = entry.1
      · subst ho
        simp [Entries.get?, he]
      · simp_all [Entries.get?]

theorem contains_iff {m : NameMap α} {name : String} :
    m.contains name = true ↔ ∃ value, m.get? name = some value :=
  Option.isSome_iff_exists

theorem get?_placeNew {name other : String} {value : α} {l : List (String × α)}
    (h : l.Pairwise (fun a b => a.1 < b.1)) :
    Entries.get? other (placeNew name value l) =
      if other = name then some ((Entries.get? name l).getD value)
      else Entries.get? other l := by
  induction l with
  | nil => rfl
  | cons entry rest ih =>
    obtain ⟨hhead, htail⟩ := List.pairwise_cons.mp h
    rw [placeNew]
    split
    · rename_i hlt
      have hnone : Entries.get? name (entry :: rest) = none :=
        Entries.get?_eq_none_of_forall_lt (List.forall_mem_cons.mpr
          ⟨hlt, fun e he => String.lt_trans hlt (hhead e he)⟩)
      rw [hnone]
      rfl
    · split
      · rename_i heq
        by_cases ho : other = name
        · simp [Entries.get?, ho, heq]
        · simp [ho]
      · rename_i hne
        by_cases ho : other = entry.1
        · subst ho
          simp [Entries.get?, Ne.symm hne]
        · simp [Entries.get?, ho, hne, ih htail]

theorem get?_insertNew (m : NameMap α) (name other : String) (value : α) :
    (m.insertNew name value).get? other =
      if other = name then some ((m.get? name).getD value) else m.get? other :=
  get?_placeNew m.ascending

/-- In a map made from a list the last entry of a name counts: an entry is what its name looks up
unless a later entry has that name. -/
theorem get?_ofList_cons (name other : String) (value : α) (l : List (String × α)) :
    (ofList ((name, value) :: l)).get? other =
      if other = name then some (((ofList l).get? name).getD value) else (ofList l).get? other :=
  get?_insertNew _ _ _ _

theorem get?_map (f : String → α → β) (m : NameMap α) (name : String) :
    (m.map f).get? name = (m.get? name).map (f name) := by
  obtain ⟨l, hl⟩ := m
  simp only [get?, map]
  clear hl
  induction l with
  | nil => rfl
  | cons entry rest ih =>
    by_cases h : name = entry.1
    · subst h
      simp [Entries.get?]
    · simp [Entries.get?, h, ih]

theorem contains_insert_iff {m : NameMap α} {name other : String} {value : α} :
    (m.insert name value).contains other = true ↔ other = name ∨ m.contains other = true := by
  rw [contains, get?_insert]
  by_cases h : other = name <;> simp [h, contains]

theorem contains_ofList_iff {l : List (String × α)} {name : String} :
    (ofList l).contains name = true ↔ name ∈ l.map Prod.fst := by
  induction l with
  | nil => simp [ofList, contains]
  | cons entry rest ih =>
    rw [contains, get?_ofList_cons, List.map_cons, List.mem_cons, ← ih]
    by_cases h : name = entry.1 <;> simp [h, contains]

theorem contains_map (f : String → α → β) (m : NameMap α) (name : String) :
    (m.map f).contains name = m.contains name := by
  rw [contains, get?_map, Option.isSome_map, contains]

/-! ## Entries and names -/

theorem names_map (f : String → α → β) (m : NameMap α) : (m.map f).names = m.names := by
  simp [names, map]

/-- The names of a sorted list of entries do not repeat. -/
theorem nodup_of_ascending {l : List (String × α)} (h : l.Pairwise (fun a b => a.1 < b.1)) :
    (l.map Prod.fst).Nodup :=
  List.pairwise_map.mpr (h.imp fun {a b} hlt (heq : a.1 = b.1) =>
    String.lt_irrefl b.1 (by rwa [heq] at hlt))

theorem mem_entries_iff {m : NameMap α} {name : String} {value : α} :
    (name, value) ∈ m.entries ↔ m.get? name = some value :=
  Entries.mem_iff_get? (nodup_of_ascending m.ascending)

theorem mem_names_iff {m : NameMap α} {name : String} :
    name ∈ m.names ↔ m.contains name = true := by
  rw [contains_iff]
  constructor
  · intro h
    obtain ⟨e, he, rfl⟩ := List.mem_map.mp h
    exact ⟨e.2, mem_entries_iff.mp he⟩
  · rintro ⟨value, h⟩
    exact List.mem_map.mpr ⟨(name, value), mem_entries_iff.mpr h, rfl⟩

theorem mem_names_of_get? {m : NameMap α} {name : String} {value : α}
    (h : m.get? name = some value) : name ∈ m.names :=
  mem_names_iff.mpr (contains_iff.mpr ⟨value, h⟩)

theorem names_ascending (m : NameMap α) : m.names.Pairwise (· < ·) :=
  List.pairwise_map.mpr m.ascending

/-- Sorted lists of entries that look up the same are equal. -/
theorem eq_of_get?_eq {l k : List (String × α)} (hl : l.Pairwise (fun a b => a.1 < b.1))
    (hk : k.Pairwise (fun a b => a.1 < b.1))
    (h : ∀ name, Entries.get? name l = Entries.get? name k) : l = k := by
  induction l generalizing k with
  | nil =>
    cases k with
    | nil => rfl
    | cons d k => simpa [Entries.get?] using h d.1
  | cons e l ih =>
    cases k with
    | nil => simpa [Entries.get?] using h e.1
    | cons d k =>
      obtain ⟨hle, hlt⟩ := List.pairwise_cons.mp hl
      obtain ⟨hke, hkt⟩ := List.pairwise_cons.mp hk
      have hname : e.1 = d.1 := by
        refine String.le_antisymm (String.not_lt.mp fun hde => ?_) (String.not_lt.mp fun hed => ?_)
        · have := h d.1
          rw [Entries.get?_eq_none_of_forall_lt (List.forall_mem_cons.mpr
            ⟨hde, fun x hx => String.lt_trans hde (hle x hx)⟩)] at this
          simp [Entries.get?] at this
        · have := h e.1
          rw [Entries.get?_eq_none_of_forall_lt (l := d :: k) (List.forall_mem_cons.mpr
            ⟨hed, fun x hx => String.lt_trans hed (hke x hx)⟩)] at this
          simp [Entries.get?] at this
      have hvalue : e.2 = d.2 := by
        simpa [Entries.get?, hname] using h e.1
      obtain rfl : e = d := Prod.ext hname hvalue
      congr 1
      refine ih hlt hkt fun name => ?_
      by_cases hn : name = e.1
      · subst hn
        rw [Entries.get?_eq_none_of_forall_lt hle, Entries.get?_eq_none_of_forall_lt hke]
      · simpa [Entries.get?, hn] using h name

/-- A map is what it looks up. -/
theorem ext_get? {m n : NameMap α} (h : ∀ name, m.get? name = n.get? name) : m = n := by
  obtain ⟨l, hl⟩ := m
  obtain ⟨k, hk⟩ := n
  obtain rfl : l = k := eq_of_get?_eq hl hk h
  rfl

end NameMap

end RecordStore
