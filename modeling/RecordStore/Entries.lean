/-
# RecordStore.Entries — lists of named values.

A list of named values is looked up by the first entry with a name.  Maps keep such a list sorted
by name, partitions keep one in the order in which the names arrived; both use the one look-up of
this file.
-/

namespace RecordStore.Entries

universe u v

variable {α : Type u} {β : Type v}

/-- The value of the first entry with a name. -/
def get? (name : String) : List (String × α) → Option α
  | [] => none
  | entry :: rest => if name = entry.1 then some entry.2 else get? name rest

/-- A name has a value exactly when it is the name of an entry. -/
theorem isSome_get? {name : String} {l : List (String × α)} :
    (get? name l).isSome = true ↔ name ∈ l.map Prod.fst := by
  induction l with
  | nil => simp [get?]
  | cons entry rest ih => by_cases h : name = entry.1 <;> simp [get?, h, ih]

theorem get?_eq_none_iff {name : String} {l : List (String × α)} :
    get? name l = none ↔ name ∉ l.map Prod.fst := by
  rw [← isSome_get?, Option.not_isSome_iff_eq_none]

/-- A name that stands before every entry of a list has no value in it. -/
theorem get?_eq_none_of_forall_lt {name : String} {l : List (String × α)}
    (h : ∀ e ∈ l, name < e.1) : get? name l = none := by
  rw [get?_eq_none_iff]
  intro hm
  obtain ⟨e, he, rfl⟩ := List.mem_map.mp hm
  exact String.lt_irrefl _ (h e he)

/-- In a list without repeated names, looking up finds every entry. -/
theorem mem_iff_get? {name : String} {value : α} {l : List (String × α)}
    (h : (l.map Prod.fst).Nodup) : (name, value) ∈ l ↔ get? name l = some value := by
  induction l with
  | nil => simp [get?]
  | cons entry rest ih =>
    obtain ⟨hhead, htail⟩ := List.nodup_cons.mp h
    rw [List.mem_cons, get?]
    by_cases hn : name = entry.1
    · subst hn
      rw [if_pos rfl, Option.some.injEq]
      constructor
      · rintro (he | he)
        · rw [← he]
        · exact absurd (List.mem_map.mpr ⟨_, he, rfl⟩) hhead
      · intro he
        exact .inl (by rw [← he])
    · rw [if_neg hn, ← ih htail]
      exact ⟨fun hm => hm.resolve_left (fun he => hn (by rw [← he])), .inr⟩

/-- Two lists with the same names in the same order, none of them repeated, are equal if they look up
the same. -/
theorem eq_of_get?_eq {l k : List (String × α)} (hl : (l.map Prod.fst).Nodup)
    (hnames : l.map Prod.fst = k.map Prod.fst) (h : ∀ name, get? name l = get? name k) : l = k := by
  induction l generalizing k with
  | nil => exact (List.map_eq_nil_iff.mp hnames.symm).symm
  | cons entry rest ih =>
    obtain ⟨hhead, htail⟩ := List.nodup_cons.mp hl
    obtain ⟨entry', rest', rfl, hname, hrest⟩ := List.map_eq_cons_iff.mp hnames.symm
    have hentry : entry = entry' := by
      refine Prod.ext hname.symm ?_
      simpa [get?, hname] using h entry.1
    have hlookup : ∀ name, get? name rest = get? name rest' := by
      intro name
      by_cases hn : name = entry.1
      · rw [get?_eq_none_iff.mpr (hn ▸ hhead), get?_eq_none_iff.mpr (hrest ▸ hn ▸ hhead)]
      · simpa [get?, hname, hn] using h name
    rw [hentry, ih htail hrest.symm hlookup]

end RecordStore.Entries
