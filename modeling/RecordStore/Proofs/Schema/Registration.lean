/-
# RecordStore.Proofs.Schema.Registration — types registered one after another.

A list of types is registered exactly if all of them are valid, and then the last type of each name is
the one that the schema knows (`ofTypes_eq_ok_iff`).  Where no name is given twice the order of the
list does not show, so the types of a schema make up this schema again in whatever order they are
listed (`ofTypes_of_perm_toList`).
-/
import RecordStore.Proofs.NameMap
import RecordStore.Schema.Basic

namespace RecordStore

namespace Schema

variable {s s' : Schema} {types : List EntityType}

/-- A schema is the types that it knows. -/
theorem ext_types (h : s.types = s'.types) : s = s' := by
  cases s
  cases s'
  cases h
  rfl

theorem foldlM_register_eq_ok_iff :
    types.foldlM register s = .ok s' ↔
      (∀ t ∈ types, t.Valid) ∧ s'.types = types.foldl (fun m t => m.insert t.name t) s.types := by
  induction types generalizing s with
  | nil =>
    constructor
    · intro h
      cases h
      exact ⟨nofun, rfl⟩
    · rintro ⟨-, h⟩
      exact congrArg Except.ok (ext_types h.symm)
  | cons t rest ih =>
    rw [List.foldlM_cons, bind_eq_ok_iff, List.forall_mem_cons, List.foldl_cons]
    constructor
    · rintro ⟨first, hfirst, hrest⟩
      obtain ⟨ht, htypes⟩ := register_eq_ok_iff.mp hfirst
      obtain ⟨hvalid, hs'⟩ := ih.mp hrest
      rw [htypes] at hs'
      exact ⟨⟨ht, hvalid⟩, hs'⟩
    · rintro ⟨⟨ht, hvalid⟩, hs'⟩
      exact ⟨s.add t ht, register_eq_ok_iff.mpr ⟨ht, rfl⟩, ih.mpr ⟨hvalid, hs'⟩⟩

/-- A list of types is registered exactly if all of them are valid; of the types of one name the last
counts. -/
theorem ofTypes_eq_ok_iff :
    ofTypes types = .ok s ↔
      (∀ t ∈ types, t.Valid) ∧ s.types = .ofList (types.map fun t => (t.name, t)) := by
  rw [ofTypes, foldlM_register_eq_ok_iff, ← NameMap.foldl_insert_empty, List.foldl_map]
  rfl

/-! ## The types of a schema -/

/-- A schema lists every type under its own name. -/
theorem entries_eq_map_toList (s : Schema) :
    s.types.entries = s.toList.map fun t => (t.name, t) := by
  rw [toList, NameMap.values, List.map_map]
  have heach : ∀ e ∈ s.types.entries, e = (e.2.name, e.2) := by
    rintro ⟨name, t⟩ he
    exact Prod.ext (s.valid name t (NameMap.mem_entries_iff.mp he)).1.symm rfl
  exact (List.map_id _).symm.trans (List.map_congr_left heach)

/-- The types of a schema, in any order, make up the schema. -/
theorem ofTypes_of_perm_toList (h : types.Perm s.toList) : ofTypes types = .ok s := by
  refine ofTypes_eq_ok_iff.mpr ⟨?valid, ?types⟩
  case valid =>
    intro t ht
    exact (s.valid t.name t (mem_toList_iff.mp (h.mem_iff.mp ht))).2
  case types =>
    have hperm : (types.map fun t => (t.name, t)).Perm s.types.entries := by
      rw [entries_eq_map_toList]
      exact h.map _
    have hnodup := (hperm.map Prod.fst).nodup_iff.mpr (NameMap.nodup_of_ascending s.types.ascending)
    rw [NameMap.ofList_perm hperm hnodup, NameMap.ofList_entries]

end Schema

end RecordStore
