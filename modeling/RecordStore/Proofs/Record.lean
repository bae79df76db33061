/-
# RecordStore.Proofs.Record — what the projection of a record depends on.

A projection is given names in any order and with repetitions, and makes a map of them.  What it looks
up is said by `get?_project`, in which neither order nor repetition shows.  So a projection has each of
the names once (`names_project_perm`), and is known from the set of the names and from what the record
has under them, a missing field counting as `null` (`project_eq_project_iff`).

The other two laws are about a projection that is projected again.  It comes to the projection of the
record itself, unless a name that the record has something under was left out the first time
(`project_project_eq_iff`).  A record stays as it is just where the names are those of its own fields
(`project_eq_self_iff`).

The map can also be made in a loop that copies field by field, a later copy under one name taking the
place of an earlier one.  The record is only read meanwhile (`run_copyFields`).
-/
import Mathlib.Data.List.Dedup
import RecordStore.Proofs.NameMap
import RecordStore.Record

namespace RecordStore.Record

variable {r r' : Record} {names names' others : List String}

/-! ## The fields -/

theorem get?_project_isSome_iff (names : List String) (field : String) :
    (∃ v, (r.project names).get? field = some v) ↔ field ∈ names := by
  rw [get?_project]
  split <;> simp_all

/-- A projection has the names of its list, each once. -/
theorem names_project_perm (r : Record) (names : List String) :
    (r.project names).fields.names.Perm names.dedup := by
  have hnodup : (r.project names).fields.names.Nodup :=
    NameMap.nodup_of_ascending (r.project names).fields.ascending
  refine (List.perm_ext_iff_of_nodup hnodup (List.nodup_dedup names)).mpr fun name => ?_
  rw [NameMap.mem_names_iff, NameMap.contains_iff, List.mem_dedup]
  exact get?_project_isSome_iff names name

/-! ## Equal projections -/

/-- Projections are equal exactly if they are onto the same names, in whatever lists, and the records
have the same under each of them, or one has `null` where the other has nothing. -/
theorem project_eq_project_iff :
    r.project names = r'.project names' ↔
      (∀ name, name ∈ names ↔ name ∈ names') ∧
        ∀ name ∈ names, (r.get? name).getD .null = (r'.get? name).getD .null := by
  constructor
  · intro h
    have hsame : ∀ name, name ∈ names ↔ name ∈ names' := by
      intro name
      rw [← get?_project_isSome_iff (r := r) names, h, get?_project_isSome_iff]
    refine ⟨hsame, fun name hname => ?_⟩
    have hlookup : (r.project names).get? name = (r'.project names').get? name := by rw [h]
    rw [get?_project, get?_project, if_pos hname, if_pos ((hsame name).mp hname)] at hlookup
    exact Option.some.inj hlookup
  · rintro ⟨hsame, hvalues⟩
    apply ext_get?
    intro name
    show (r.project names).get? name = (r'.project names').get? name
    rw [get?_project, get?_project]
    by_cases hname : name ∈ names
    · rw [if_pos hname, if_pos ((hsame name).mp hname), hvalues name hname]
    · have hname' : name ∉ names' := fun h => hname ((hsame name).mpr h)
      rw [if_neg hname, if_neg hname']

/-- To project a projection again is to project the record, if nothing that is asked for was lost. -/
theorem project_project_eq_iff :
    (r.project others).project names = r.project names ↔
      ∀ name ∈ names, name ∈ others ∨ (r.get? name).getD .null = .null := by
  rw [project_eq_project_iff, and_iff_right fun _ => Iff.rfl]
  refine forall₂_congr fun name _ => ?_
  rw [get?_project]
  by_cases hname : name ∈ others
  · simp [hname]
  · simp [hname, eq_comm]

/-- A record is its own projection exactly onto the names of its fields. -/
theorem project_eq_self_iff :
    r.project names = r ↔ ∀ field, (∃ v, r.get? field = some v) ↔ field ∈ names := by
  constructor
  · intro h field
    have hfield := get?_project_isSome_iff (r := r) names field
    rwa [h] at hfield
  · intro h
    apply ext_get?
    intro field
    show (r.project names).get? field = r.get? field
    rw [get?_project]
    cases hr : r.get? field with
    | none =>
      rw [if_neg]
      intro hmem
      obtain ⟨v, hv⟩ := (h field).mpr hmem
      cases hr.symm.trans hv
    | some v => rw [if_pos ((h field).mp ⟨v, hr⟩), Option.getD_some]

/-! ## Field by field -/

/-- A record that is read, and the fields that have been copied from it. -/
structure Copying where
  source : Record
  copied : NameMap Value

/-- Copies what the record has under a name, or `null` if it has nothing. -/
def copyField (name : String) : StateM Copying Unit :=
  modify fun c => { c with copied := c.copied.insert name ((c.source.get? name).getD .null) }

/-- Copies the fields of a list of names one after another. -/
def copyFields (names : List String) : StateM Copying Unit := names.forM copyField

/-- The copies are inserted in the order of the names, and all are of the record as it was. -/
theorem run_copyFields_onto (names : List String) (c : Copying) :
    (copyFields names).run c =
      ((), { c with
        copied := (names.map fun name => (name, (c.source.get? name).getD .null)).foldl
          (fun m e => m.insert e.1 e.2) c.copied }) := by
  induction names generalizing c with
  | nil => rfl
  | cons name rest ih =>
    exact ih { c with copied := c.copied.insert name ((c.source.get? name).getD .null) }

theorem run_copyFields (r : Record) (names : List String) :
    (copyFields names).run ⟨r, .empty⟩ = ((), ⟨r, (r.project names).fields⟩) := by
  rw [run_copyFields_onto, NameMap.foldl_insert_empty]
  rfl

end RecordStore.Record
