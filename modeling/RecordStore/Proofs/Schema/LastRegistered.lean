/-
# RecordStore.Proofs.Schema.LastRegistered — what a schema knows after any registrations.

Types are registered one after another.  Some are refused, because their key field is not declared or
is of another kind, and then the schema is as it was; some come in the place of earlier types of their
name, and may store their records in another partition.  What the schema knows in the end is the last
valid type of each name and nothing else (`resolve_registering_iff`).  So the partitions in use are
those of these types, and a partition that only replaced types have named is in use no more.

One registration is also written as steps on the types by name (`registerInPlace`).  These keep no
proof that the types are valid, and a refusal keeps what was done before it; that they do what
registering does says that nothing is done before the check (`run_registerInPlace`).

A schema of a list of types is refused for the first type that is not valid (`FirstRefused`), and is
otherwise what registering the types one after another gives.
-/
import RecordStore.Proofs.Schema.Registration
import RecordStore.Proofs.Store.Contents
import RecordStore.Proofs.Store.InPlace

namespace RecordStore

/-! ## Types that are refused -/

/-- Why a type is refused: its key field is not declared, or is of another kind. -/
inductive EntityType.Misdeclares (t : EntityType) : Error → Prop where
  | undeclared (h : t.fields.get? t.keyField = none) :
    Misdeclares t (.invalidRecord (.keyFieldUndeclared t.keyField t.name))
  | otherKind {kind : FieldKind} (h : t.fields.get? t.keyField = some kind) (hkind : kind ≠ .key) :
    Misdeclares t (.invalidRecord (.keyFieldKind t.keyField t.name kind))

namespace Schema

variable {s s' : Schema} {t u : EntityType} {types : List EntityType} {name : String}
  {cause : Error}

/-- The first type of a list that is not valid is refused for this reason. -/
inductive FirstRefused : List EntityType → Error → Prop where
  | here {t : EntityType} {cause : Error} (h : t.Misdeclares cause) (rest : List EntityType) :
    FirstRefused (t :: rest) cause
  | later {t : EntityType} {rest : List EntityType} {cause : Error} (h : t.Valid)
      (hrest : FirstRefused rest cause) : FirstRefused (t :: rest) cause

theorem misdeclares_iff : t.Misdeclares cause ↔ ¬ t.Valid ∧ cause = .invalidRecord (keyFault t) := by
  unfold EntityType.Valid keyFault
  constructor
  · intro h
    cases h with
    | undeclared h => simp [h]
    | otherKind h hkind => simp [h, hkind]
  · rintro ⟨hvalid, rfl⟩
    cases hget : t.fields.get? t.keyField with
    | none => exact .undeclared hget
    | some kind => exact .otherKind hget (by simpa [hget] using hvalid)

theorem register_eq_error_iff : s.register t = .error cause ↔ t.Misdeclares cause := by
  rw [misdeclares_iff, register]
  split <;> simp_all [eq_comm]

theorem exists_register_eq_ok_iff : (∃ s', s.register t = .ok s') ↔ t.Valid := by
  rw [register]
  split <;> simp_all

theorem firstRefused_cons_iff :
    FirstRefused (t :: types) cause ↔ t.Misdeclares cause ∨ t.Valid ∧ FirstRefused types cause := by
  constructor
  · intro h
    cases h with
    | here h => exact .inl h
    | later h hrest => exact .inr ⟨h, hrest⟩
  · rintro (h | ⟨h, hrest⟩)
    · exact .here h types
    · exact .later h hrest

theorem foldlM_register_eq_error_iff :
    types.foldlM register s = .error cause ↔ FirstRefused types cause := by
  induction types generalizing s with
  | nil =>
    constructor
    · rintro ⟨⟩
    · rintro ⟨⟩
  | cons t rest ih =>
    rw [List.foldlM_cons, bind_eq_error_iff, firstRefused_cons_iff, register_eq_error_iff]
    simp only [ih, exists_and_right, exists_register_eq_ok_iff]

/-! ## Registering in place -/

/-- Checks that the key field of a type is declared to be of kind `key`. -/
def check (t : EntityType) : Except Error Unit :=
  match t.fields.get? t.keyField with
  | some .key => .ok ()
  | some kind => .error (.invalidRecord (.keyFieldKind t.keyField t.name kind))
  | none => .error (.invalidRecord (.keyFieldUndeclared t.keyField t.name))

/-- Checks a type and then puts it in the place of any earlier one of its name. -/
def registerInPlace (t : EntityType) : EStateM Error (NameMap EntityType) Unit := do
  ofExcept (check t)
  modify fun types => types.insert t.name t

theorem check_eq (t : EntityType) :
    check t = if t.Valid then .ok () else .error (.invalidRecord (keyFault t)) := by
  unfold check keyFault EntityType.Valid
  split <;> simp_all

/-- Registering in place is registering, and a refusal leaves the types as they were. -/
theorem run_registerInPlace (s : Schema) (t : EntityType) :
    (registerInPlace t).run s.types =
      InPlace.allOrNothing s.types ((s.register t).map fun s' => ((), s'.types)) := by
  rw [registerInPlace, EStateM.run_bind, InPlace.run_ofExcept, check_eq, register]
  by_cases h : t.Valid
  · rw [if_pos h, dif_pos h]
    rfl
  · rw [if_neg h, dif_neg h]
    rfl

/-! ## Registrations one after another -/

/-- The schema after a type was registered, or refused. -/
def afterRegistering (s : Schema) (t : EntityType) : Schema :=
  match s.register t with
  | .ok s' => s'
  | .error _ => s

/-- The schema after types were registered one after another, whatever becomes of each. -/
def registering (s : Schema) (types : List EntityType) : Schema := types.foldl afterRegistering s

/-- The last valid type of a name in a list. -/
inductive LastRegistered : List EntityType → String → EntityType → Prop where
  | here {t : EntityType} {rest : List EntityType} (h : t.Valid)
      (hlast : ∀ u ∈ rest, u.Valid → u.name ≠ t.name) : LastRegistered (t :: rest) t.name t
  | later {u t : EntityType} {rest : List EntityType} {name : String}
      (h : LastRegistered rest name t) : LastRegistered (u :: rest) name t

theorem lastRegistered_cons_iff :
    LastRegistered (u :: types) name t ↔ LastRegistered types name t ∨
      (u = t ∧ t.Valid ∧ t.name = name ∧ ∀ v ∈ types, v.Valid → v.name ≠ name) := by
  constructor
  · intro h
    cases h with
    | here h hlast => exact .inr ⟨rfl, h, rfl, hlast⟩
    | later h => exact .inl h
  · rintro (h | ⟨rfl, h, rfl, hlast⟩)
    · exact .later h
    · exact .here h hlast

/-- There is a last valid type of a name as soon as there is a valid one. -/
theorem exists_lastRegistered_iff :
    (∃ t, LastRegistered types name t) ↔ ∃ t ∈ types, t.Valid ∧ t.name = name := by
  induction types with
  | nil =>
    constructor
    · rintro ⟨t, ⟨⟩⟩
    · rintro ⟨t, ⟨⟩, _⟩
  | cons u rest ih =>
    simp only [lastRegistered_cons_iff, exists_or, ih, List.mem_cons, exists_eq_or_imp]
    constructor
    · rintro (h | ⟨t, rfl, hvalid, hname, -⟩)
      · exact .inr h
      · exact .inl ⟨hvalid, hname⟩
    · intro h
      -- the first type counts unless a later one takes its place
      by_cases hrest : ∃ v ∈ rest, v.Valid ∧ v.name = name
      · exact .inl hrest
      · obtain ⟨hvalid, hname⟩ := h.resolve_right hrest
        exact .inr ⟨u, rfl, hvalid, hname, fun v hv hvalid' hname' => hrest ⟨v, hv, hvalid', hname'⟩⟩

theorem types_afterRegistering (s : Schema) (u : EntityType) :
    (s.afterRegistering u).types = if u.Valid then s.types.insert u.name u else s.types := by
  rw [afterRegistering, register]
  by_cases h : u.Valid <;> simp [h, add]

/-- A valid type takes the place of its name, and one that is not valid changes nothing. -/
theorem resolve_afterRegistering_iff :
    (s.afterRegistering u).resolve name = .ok t ↔
      (u = t ∧ t.Valid ∧ t.name = name) ∨
        (s.resolve name = .ok t ∧ ¬ (u.Valid ∧ u.name = name)) := by
  rw [resolve_eq_ok_iff, resolve_eq_ok_iff, types_afterRegistering]
  by_cases hvalid : u.Valid
  · by_cases hname : u.name = name
    · subst hname
      simp only [hvalid, if_true, NameMap.get?_insert_self]
      grind
    · simp only [hvalid, if_true, NameMap.get?_insert, Ne.symm hname, if_false]
      grind
  · simp only [hvalid, if_false]
    grind

theorem resolve_registering_iff :
    (s.registering types).resolve name = .ok t ↔
      LastRegistered types name t ∨
        (s.resolve name = .ok t ∧ ∀ u ∈ types, u.Valid → u.name ≠ name) := by
  induction types generalizing s with
  | nil =>
    have hnone : ¬ LastRegistered [] name t := by
      rintro ⟨⟩
    simp [hnone, registering]
  | cons u rest ih =>
    show ((s.afterRegistering u).registering rest).resolve name = .ok t ↔ _
    rw [ih, resolve_afterRegistering_iff, lastRegistered_cons_iff, List.forall_mem_cons]
    grind

theorem registering_eq_foldl (hvalid : ∀ t ∈ types, t.Valid) :
    (s.registering types).types = types.foldl (fun m t => m.insert t.name t) s.types := by
  induction types generalizing s with
  | nil => rfl
  | cons t rest ih =>
    obtain ⟨ht, hrest⟩ := List.forall_mem_cons.mp hvalid
    show ((s.afterRegistering t).registering rest).types = _
    rw [ih hrest, types_afterRegistering, if_pos ht, List.foldl_cons]

theorem resolve_registering_empty_iff :
    (empty.registering types).resolve name = .ok t ↔ LastRegistered types name t := by
  have hnone : empty.resolve name = .error (.unknownType name) := rfl
  simp [resolve_registering_iff, hnone]

theorem resolve_registering_empty_eq_error_iff :
    (empty.registering types).resolve name = .error cause ↔
      cause = .unknownType name ∧ ∀ t ∈ types, t.Valid → t.name ≠ name := by
  rw [resolve_eq_error_iff, and_comm]
  refine and_congr_right fun _ => ?_
  -- a type is known under the name exactly if some type of the list is the last of this name
  have hknown : (∃ t, (empty.registering types).types.get? name = some t) ↔
      ∃ t ∈ types, t.Valid ∧ t.name = name := by
    simp only [← resolve_eq_ok_iff, resolve_registering_empty_iff, exists_lastRegistered_iff]
  rw [← Option.not_isSome_iff_eq_none, Option.isSome_iff_exists, hknown]
  simp

theorem exists_typeOfPartition? {partition : String} (h : s.hasPartition partition = true) :
    ∃ t, s.typeOfPartition? partition = some t ∧ s.resolve t.name = .ok t ∧
      t.partition = partition := by
  obtain ⟨t, ht⟩ := Option.isSome_iff_exists.mp h
  have hmem := mem_toList_of_typeOfPartition? ht
  exact ⟨t, ht, resolve_eq_ok_iff.mpr (mem_toList_iff.mp hmem), partition_of_typeOfPartition? ht⟩

/-- Whatever is registered: each registration succeeds exactly for a valid type, and one that is
refused, carried out in place, leaves the types as they were.  In the end the schema knows the last
valid type of each name, and uses the partitions of these types; the type of a partition is one of
them.  A list of types makes up a schema unless one of them is not valid; then it is refused for the
first that is not, and otherwise it is what registering the types one after another gives. -/
theorem last_registration_counts (types : List EntityType) :
    (∀ (s : Schema) (t : EntityType),
      ((∃ s', s.register t = .ok s') ↔ t.fields.get? t.keyField = some .key) ∧
      ∀ cause types', (registerInPlace t).run s.types = .error cause types' ↔
        s.register t = .error cause ∧ types' = s.types) ∧
    (∀ name t, (empty.registering types).resolve name = .ok t ↔ LastRegistered types name t) ∧
    (∀ name cause, (empty.registering types).resolve name = .error cause ↔
      cause = .unknownType name ∧ ∀ t ∈ types, t.Valid → t.name ≠ name) ∧
    (∀ name t, (empty.registering types).resolve name = .ok t →
      t.name = name ∧ t.fields.get? t.keyField = some .key) ∧
    (∀ partition, ((empty.registering types).hasPartition partition = true ↔
        ∃ name t, (empty.registering types).resolve name = .ok t ∧ t.partition = partition) ∧
      ((empty.registering types).hasPartition partition = true →
        ∃ t, (empty.registering types).typeOfPartition? partition = some t ∧
          (empty.registering types).resolve t.name = .ok t ∧ t.partition = partition)) ∧
    ((∃ s, ofTypes types = .ok s) ↔ ∀ t ∈ types, t.fields.get? t.keyField = some .key) ∧
    (∀ cause, ofTypes types = .error cause ↔ FirstRefused types cause) ∧
    ∀ s, ofTypes types = .ok s → s = empty.registering types := by
  refine ⟨?register, fun _ _ => resolve_registering_empty_iff,
    fun _ _ => resolve_registering_empty_eq_error_iff, ?known, ?partitions, ?accepted,
    fun _ => foldlM_register_eq_error_iff, ?list⟩
  case register =>
    intro s t
    refine ⟨exists_register_eq_ok_iff, fun cause types' => ?_⟩
    rw [run_registerInPlace, InPlace.allOrNothing_map_eq_error_iff]
  case known =>
    intro name t h
    exact ⟨name_of_resolve h, valid_of_mem_toList (mem_toList_of_resolve h)⟩
  case partitions =>
    intro partition
    refine ⟨⟨fun h => ?_, ?_⟩, exists_typeOfPartition?⟩
    · obtain ⟨t, -, ht, hpartition⟩ := exists_typeOfPartition? h
      exact ⟨t.name, t, ht, hpartition⟩
    · rintro ⟨name, t, ht, hpartition⟩
      exact hasPartition_iff.mpr ⟨t, mem_toList_of_resolve ht, hpartition⟩
  case accepted =>
    constructor
    · rintro ⟨s, h⟩
      exact (ofTypes_eq_ok_iff.mp h).1
    · intro hvalid
      exact ⟨_, foldlM_register_eq_ok_iff.mpr ⟨hvalid, registering_eq_foldl hvalid⟩⟩
  case list =>
    intro s h
    obtain ⟨hvalid, htypes⟩ := foldlM_register_eq_ok_iff.mp h
    exact ext_types (htypes.trans (registering_eq_foldl hvalid).symm)

/-- Tags move to another partition; a definition in between, whose key is not declared, is refused. -/
example :
    let s := empty.registering [.keyed "Tag" "tags" "value",
      (EntityType.keyed "Tag" "lost" "value").withoutField "value", .keyed "Tag" "labels" "value"]
    s.resolve "Tag" = .ok (.keyed "Tag" "labels" "value") ∧
      ["tags", "lost", "labels"].map s.hasPartition = [false, false, true] := by
  exact ⟨rfl, rfl⟩

end Schema

end RecordStore
