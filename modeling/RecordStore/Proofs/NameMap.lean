/-
# RecordStore.Proofs.NameMap — maps made from lists of entries.

A map can be made from a list at once, or by inserting the entries one after another into the map
without entries; both come to the same (`foldl_insert_empty`).  Where no name repeats, the map looks
up just the entries of the list, so the order of the list does not show (`ofList_perm`).  The entries
of a map make up this map again (`ofList_entries`).
-/
import RecordStore.NameMap

namespace RecordStore

namespace NameMap

universe u

variable {α : Type u}

/-- Inserting entries one after another is making a map of them and preferring it to what was there. -/
theorem get?_foldl_insert_ofList (l : List (String × α)) (m : NameMap α) (name : String) :
    (l.foldl (fun m e => m.insert e.1 e.2) m).get? name =
      ((ofList l).get? name).or (m.get? name) := by
  induction l generalizing m with
  | nil => rfl
  | cons e rest ih =>
    rw [List.foldl_cons, ih, get?_insert, get?_ofList_cons]
    by_cases h : name = e.1
    · subst h
      cases (ofList rest).get? e.1 <;> simp
    · simp [h]

theorem foldl_insert_empty (l : List (String × α)) :
    l.foldl (fun m e => m.insert e.1 e.2) empty = ofList l := by
  apply ext_get?
  intro name
  rw [get?_foldl_insert_ofList, get?_empty, Option.or_none]

/-- Where no name repeats, the map of a list looks up just the entries of the list. -/
theorem get?_ofList_eq_some_iff {l : List (String × α)} (h : (l.map Prod.fst).Nodup) {name : String}
    {value : α} : (ofList l).get? name = some value ↔ (name, value) ∈ l := by
  induction l with
  | nil => simp [ofList]
  | cons e rest ih =>
    obtain ⟨hhead, htail⟩ := List.nodup_cons.mp h
    rw [get?_ofList_cons, List.mem_cons, ← ih htail]
    by_cases hname : name = e.1
    · subst hname
      -- the later entries have other names
      have hnone : (ofList rest).get? e.1 = none := by
        rw [← Option.not_isSome_iff_eq_none]
        exact fun hsome => hhead (contains_ofList_iff.mp hsome)
      simp [hnone, Prod.ext_iff, eq_comm]
    · simp [hname, Prod.ext_iff]

/-- Where no name repeats, the order of a list does not show in its map. -/
theorem ofList_perm {l k : List (String × α)} (hperm : l.Perm k) (h : (l.map Prod.fst).Nodup) :
    ofList l = ofList k := by
  have hk : (k.map Prod.fst).Nodup := (hperm.map Prod.fst).nodup_iff.mp h
  apply ext_get?
  intro name
  apply Option.ext
  intro value
  rw [get?_ofList_eq_some_iff h, get?_ofList_eq_some_iff hk, hperm.mem_iff]

/-- The map of the entries of a map is the map itself. -/
theorem ofList_entries (m : NameMap α) : ofList m.entries = m := by
  obtain ⟨l, hl⟩ := m
  apply ext_get?
  show ∀ name, (ofList l).get? name = Entries.get? name l
  induction l with
  | nil => exact fun _ => rfl
  | cons e l ih =>
    obtain ⟨hhead, htail⟩ := List.pairwise_cons.mp hl
    intro name
    rw [get?_ofList_cons, ih htail, ih htail, Entries.get?_eq_none_of_forall_lt hhead]
    rfl

/-- The first name with a property is the least one that has it. -/
theorem find?_names_eq_some_iff {m : NameMap α} {p : String → Bool} {name : String} :
    m.names.find? p = some name ↔
      name ∈ m.names ∧ p name = true ∧ ∀ other ∈ m.names, other < name → p other = false := by
  have hascending := m.names_ascending
  generalize m.names = l at hascending
  induction l with
  | nil => simp
  | cons first rest ih =>
    obtain ⟨hfirst, hrest⟩ := List.pairwise_cons.mp hascending
    by_cases hp : p first = true
    · rw [List.find?_cons_of_pos hp, Option.some.injEq]
      constructor
      · rintro rfl
        refine ⟨List.mem_cons_self, hp, List.forall_mem_cons.mpr ⟨?_, ?_⟩⟩
        · intro hlt
          exact absurd hlt (String.lt_irrefl first)
        · intro other hother hlt
          exact absurd (String.lt_trans (hfirst other hother) hlt) (String.lt_irrefl first)
      · rintro ⟨hmem, _, hleast⟩
        rcases List.mem_cons.mp hmem with rfl | hmem
        · rfl
        · -- a later name would come after the first, which has the property too
          have hfalse := hleast first List.mem_cons_self (hfirst name hmem)
          exact absurd (hp.symm.trans hfalse) Bool.true_eq_false.mp
    · have hnot : p first = false := Bool.eq_false_iff.mpr hp
      rw [List.find?_cons_of_neg hp]
      refine (ih hrest).trans ⟨?_, ?_⟩
      · rintro ⟨hmem, hname, hleast⟩
        exact ⟨List.mem_cons_of_mem first hmem, hname,
          List.forall_mem_cons.mpr ⟨fun _ => hnot, hleast⟩⟩
      · rintro ⟨hmem, hname, hleast⟩
        rcases List.mem_cons.mp hmem with rfl | hmem
        · exact absurd hname hp
        · exact ⟨hmem, hname, (List.forall_mem_cons.mp hleast).2⟩

end NameMap

end RecordStore
