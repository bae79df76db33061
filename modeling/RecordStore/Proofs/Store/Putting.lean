/-
# RecordStore.Proofs.Store.Putting — all that putting an entity does.

An entity brings its own account of its type.  Its key field and the fields that are stored of it are
those of the definition that it was made of, which need not be the one that the store has under this
name.  Of the store's own type only the partition is used.

`Puts` relates an entity and a store to what comes of putting one in the other.  It is in two parts.
`AssignsKey` is about the key and the counter: an entity keeps the key that it has, or is refused it,
or is given one.  `Entered` is about the records: one entry of one partition has changed, and nothing
else has.  Both are stated by what can be looked up.  They leave nothing open, so `put_eq_iff_puts`
is an equivalence, and an outcome of any other kind is excluded by it.
-/
import RecordStore.Proofs.Store.ClaimedKeys
import RecordStore.Proofs.Store.Contents

namespace RecordStore

/-- A record has the fields of a list, and no others, with what the given record has in them, or
`null`. -/
def Record.IsRestriction (r given : Record) (names : List String) : Prop :=
  ∀ field, r.get? field =
    if field ∈ names then some ((given.get? field).getD .null) else none

theorem Record.isRestriction_iff {r given : Record} {names : List String} :
    r.IsRestriction given names ↔ r = given.project names := by
  constructor
  · intro h
    apply Record.ext_get?
    intro field
    exact (h field).trans (get?_project given names field).symm
  · rintro rfl field
    exact get?_project given names field

/-- One entity is another with a key written into its key field. -/
structure Entity.IsKeyed (e' e : Entity) (key : String) : Prop where
  typeName : e'.typeName = e.typeName
  keyField : e'.keyField = e.keyField
  properties : e'.properties = e.properties
  data : ∀ field, e'.data.get? field =
    if field = e.keyField then some (.text key) else e.data.get? field

theorem Entity.isKeyed_iff {e e' : Entity} {key : String} :
    e'.IsKeyed e key ↔ e' = e.setKey key := by
  constructor
  · rintro ⟨htype, hfield, hproperties, hdata⟩
    have hrecord : e'.data = e.data.insert e.keyField (.text key) := by
      apply Record.ext_get?
      intro field
      exact (hdata field).trans (Record.get?_insert e.data e.keyField field (.text key)).symm
    cases e'
    cases htype
    cases hfield
    cases hproperties
    cases hrecord
    rfl
  · rintro rfl
    exact ⟨rfl, rfl, rfl, fun field => Record.get?_insert e.data e.keyField field (.text key)⟩

namespace Store

/-! ## The key -/

/-- How an entity comes by the key under which it is stored, and what becomes of the entity and of the
counter.  A key that writes a number moves the counter past the number, which has to leave room for
two more; any other key leaves the counter alone.  An entity without a key gets the number of the
counter, and the counter goes one further, from the largest word to zero. -/
inductive AssignsKey (counter : KeyCounter) (e : Entity) :
    Except Error (String × Entity × KeyCounter) → Prop where
  | shape {v : Value} (hfield : e.data.get? e.keyField = some v)
      (hshape : v.shape = .bool ∨ v.shape = .array ∨ v.shape = .object) :
      AssignsKey counter e (.error (.invalidRecord (.keyShape v.shape)))
  | noRoom {v : Value} {key : String} {n : UInt64} (hfield : e.data.get? e.keyField = some v)
      (htext : v.KeyText key) (hnumber : KeyCounter.number? key = some n)
      (hlarge : 2 ^ 64 - 2 ≤ n.toNat) :
      AssignsKey counter e (.error (.invalidRecord (.keyTooLarge key)))
  | word {v : Value} {key : String} (hfield : e.data.get? e.keyField = some v)
      (htext : v.KeyText key) (hword : KeyCounter.number? key = none) :
      AssignsKey counter e (.ok (key, e, counter))
  | number {v : Value} {key : String} {n : UInt64} {counter' : KeyCounter}
      (hfield : e.data.get? e.keyField = some v) (htext : v.KeyText key)
      (hnumber : KeyCounter.number? key = some n) (hroom : n.toNat < 2 ^ 64 - 2)
      (hnext : counter'.next.toNat = max counter.next.toNat (n.toNat + 1)) :
      AssignsKey counter e (.ok (key, e, counter'))
  | generated {e' : Entity} {counter' : KeyCounter}
      (hfield : e.data.get? e.keyField = none ∨ e.data.get? e.keyField = some .null)
      (hkeyed : e'.IsKeyed e (Number.Decimal.text counter.next.toNat))
      (hnext : counter'.next.toNat = (counter.next.toNat + 1) % 2 ^ 64) :
      AssignsKey counter e (.ok (Number.Decimal.text counter.next.toNat, e', counter'))

theorem assignsKey_error {counter : KeyCounter} {e : Entity} {cause : Error}
    (h : assignKey counter e = .error cause) : AssignsKey counter e (.error cause) := by
  rcases assignKey_eq_error_iff.mp h with herror | ⟨key, hkey, hclaim⟩
  · obtain ⟨v, hfield, hshape, rfl⟩ := keyOfValue_eq_error_iff.mp herror
    exact .shape hfield hshape
  · obtain ⟨v, hfield, htext⟩ := keyOfValue_eq_some_iff.mp hkey
    obtain ⟨n, hnumber, hlarge, rfl⟩ := claimKey_eq_error_iff.mp hclaim
    exact .noRoom hfield htext hnumber hlarge

theorem assignsKey_ok {counter counter' : KeyCounter} {e e' : Entity} {key : String}
    (h : assignKey counter e = .ok (key, e', counter')) :
    AssignsKey counter e (.ok (key, e', counter')) := by
  rcases assignKey_eq_ok_iff.mp h with ⟨hkey, rfl, hclaim⟩ | ⟨hkey, rfl, rfl, rfl⟩
  · obtain ⟨v, hfield, htext⟩ := keyOfValue_eq_some_iff.mp hkey
    rcases claimKey_eq_ok_iff.mp hclaim with ⟨hword, rfl⟩ | ⟨n, hnumber, hpast⟩
    · exact .word hfield htext hword
    · obtain ⟨hroom, hnext⟩ := KeyCounter.advancePast?_eq_some_iff.mp hpast
      exact .number hfield htext hnumber hroom hnext
  · exact .generated (keyOfValue_eq_none_iff.mp hkey) (Entity.isKeyed_iff.mpr rfl)
      (UInt64.toNat_add _ _)

theorem assignKey_eq_of_assignsKey {counter : KeyCounter} {e : Entity}
    {outcome : Except Error (String × Entity × KeyCounter)} (h : AssignsKey counter e outcome) :
    assignKey counter e = outcome := by
  cases h with
  | shape hfield hshape =>
    have hkey : e.key = .error _ := keyOfValue_eq_error_iff.mpr ⟨_, hfield, hshape, rfl⟩
    exact assignKey_eq_error_iff.mpr (.inl hkey)
  | @noRoom v key n hfield htext hnumber hlarge =>
    have hkey : e.key = .ok (some key) := keyOfValue_eq_some_iff.mpr ⟨v, hfield, htext⟩
    have hclaim : claimKey counter key = .error _ :=
      claimKey_eq_error_iff.mpr ⟨n, hnumber, hlarge, rfl⟩
    exact assignKey_eq_error_iff.mpr (.inr ⟨key, hkey, hclaim⟩)
  | @word v key hfield htext hword =>
    have hkey : e.key = .ok (some key) := keyOfValue_eq_some_iff.mpr ⟨v, hfield, htext⟩
    have hclaim : claimKey counter key = .ok counter := claimKey_eq_ok_iff.mpr (.inl ⟨hword, rfl⟩)
    exact assignKey_eq_ok_iff.mpr (.inl ⟨hkey, rfl, hclaim⟩)
  | @number v key n counter' hfield htext hnumber hroom hnext =>
    have hkey : e.key = .ok (some key) := keyOfValue_eq_some_iff.mpr ⟨v, hfield, htext⟩
    have hpast := KeyCounter.advancePast?_eq_some_iff.mpr ⟨hroom, hnext⟩
    have hclaim : claimKey counter key = .ok counter' :=
      claimKey_eq_ok_iff.mpr (.inr ⟨n, hnumber, hpast⟩)
    exact assignKey_eq_ok_iff.mpr (.inl ⟨hkey, rfl, hclaim⟩)
  | @generated e' counter' hfield hkeyed hnext =>
    have hkey : e.key = .ok none := keyOfValue_eq_none_iff.mpr hfield
    have hissue : counter.issue.2.next.toNat = (counter.next.toNat + 1) % 2 ^ 64 :=
      UInt64.toNat_add _ _
    have hissued : counter' = counter.issue.2 :=
      KeyCounter.eq_of_toNat_next (hnext.trans hissue.symm)
    exact assignKey_eq_ok_iff.mpr (.inr ⟨hkey, rfl, Entity.isKeyed_iff.mp hkeyed, hissued⟩)

theorem assignKey_eq_iff {counter : KeyCounter} {e : Entity}
    {outcome : Except Error (String × Entity × KeyCounter)} :
    assignKey counter e = outcome ↔ AssignsKey counter e outcome := by
  refine ⟨fun h => ?_, assignKey_eq_of_assignsKey⟩
  cases outcome with
  | error cause => exact assignsKey_error h
  | ok assigned => exact assignsKey_ok h

/-! ## The record -/

/-- One store is another but for its counter and for one entry, which holds a given record.  The entry
keeps its place in the visiting order if it was there, and comes last if it was not.  A partition that
was not there is there now. -/
structure Entered (s' s : Store) (name key : String) (r : Record) : Prop where
  schema : s'.schema = s.schema
  elsewhere : ∀ other, other ≠ name → s'.partitions.get? other = s.partitions.get? other
  opened : s'.partitions.contains name = true
  entry : (s'.partition name).get? key = some r
  others : ∀ other, other ≠ key →
    (s'.partition name).get? other = (s.partition name).get? other
  keys : (s'.partition name).keys =
    if key ∈ (s.partition name).keys then (s.partition name).keys
    else (s.partition name).keys ++ [key]

theorem entered_setPartition (s : Store) (counter : KeyCounter) (name key : String) (r : Record) :
    Entered ({ s with counter := counter }.setPartition name ((s.partition name).insert key r)) s
      name key r := by
  have hpartition : ({ s with counter := counter }.setPartition name
      ((s.partition name).insert key r)).partition name = (s.partition name).insert key r := by
    rw [partition_setPartition, if_pos rfl]
  refine ⟨rfl, ?_, NameMap.contains_iff.mpr ⟨_, NameMap.get?_insert_self _ _ _⟩, ?_, ?_, ?_⟩
  · intro other hother
    rw [setPartition, NameMap.get?_insert, if_neg hother]
  · rw [hpartition, Partition.get?_insert, if_pos rfl]
  · intro other hother
    rw [hpartition, Partition.get?_insert, if_neg hother]
  · rw [hpartition, Partition.keys_insert]

theorem Entered.partition_eq {s s' : Store} {name key : String} {r : Record}
    (h : Entered s' s name key r) : s'.partition name = (s.partition name).insert key r := by
  apply Partition.ext_keys_get?
  · rw [h.keys, Partition.keys_insert]
  · intro other
    rw [Partition.get?_insert]
    split
    · rename_i hother
      rw [hother, h.entry]
    · rename_i hother
      exact h.others other hother

/-- A store is known from its counter and from the entry in which it differs from another. -/
theorem entered_iff {s s' : Store} {counter : KeyCounter} {name key : String} {r : Record} :
    Entered s' s name key r ∧ s'.counter = counter ↔
      s' = { s with counter := counter }.setPartition name ((s.partition name).insert key r) := by
  constructor
  · rintro ⟨h, hcounter⟩
    -- the partition is there in both, so its two views say all that there is to say of it
    have hpartitions : s'.partitions =
        s.partitions.insert name ((s.partition name).insert key r) := by
      apply NameMap.ext_get?
      intro other
      rw [NameMap.get?_insert]
      split
      · rename_i hother
        obtain ⟨p, hp⟩ := NameMap.contains_iff.mp h.opened
        rw [hother, hp, ← h.partition_eq, Store.partition, hp, Option.getD_some]
      · rename_i hother
        exact h.elsewhere other hother
    have hschema := h.schema
    cases s'
    cases hschema
    cases hcounter
    cases hpartitions
    rfl
  · rintro rfl
    exact ⟨entered_setPartition s counter name key r, rfl⟩

/-! ## Putting -/

/-- What comes of putting an entity in a store.  It is refused where the store does not know the name
of its type, and where it cannot have a key.  Otherwise it is stored under its key, in the partition
of the type that the store knows: of the data that it has now, the fields that the entity itself
counts as persisted. -/
inductive Puts (s : Store) (e : Entity) : Except Error Saved → Prop where
  | unknownType (htype : s.schema.types.get? e.typeName = none) :
      Puts s e (.error (.unknownType e.typeName))
  | refused {t : EntityType} {cause : Error} (htype : s.schema.types.get? e.typeName = some t)
      (hkey : AssignsKey s.counter e (.error cause)) : Puts s e (.error cause)
  | stored {t : EntityType} {saved : Saved} {r : Record}
      (htype : s.schema.types.get? e.typeName = some t)
      (hkey : AssignsKey s.counter e (.ok (saved.key, saved.entity, saved.store.counter)))
      (hrecord : r.IsRestriction saved.entity.data e.properties)
      (hentered : Entered saved.store s t.partition saved.key r) : Puts s e (.ok saved)

/-- A key does not change what an entity counts as persisted. -/
theorem AssignsKey.properties_eq {counter counter' : KeyCounter} {e e' : Entity} {key : String}
    (h : AssignsKey counter e (.ok (key, e', counter'))) : e'.properties = e.properties := by
  cases h with
  | word hfield htext hword => rfl
  | number hfield htext hnumber hroom hnext => rfl
  | generated hfield hkeyed hnext => exact hkeyed.properties

theorem put_eq_error_iff_puts {s : Store} {e : Entity} {cause : Error} :
    s.put e = .error cause ↔ Puts s e (.error cause) := by
  rw [put_eq_error_iff]
  constructor
  · rintro (hresolve | ⟨t, ht, hassign⟩)
    · obtain ⟨htype, rfl⟩ := Schema.resolve_eq_error_iff.mp hresolve
      exact .unknownType htype
    · exact .refused (Schema.resolve_eq_ok_iff.mp ht) (assignKey_eq_iff.mp hassign)
  · intro h
    cases h with
    | unknownType htype => exact .inl (Schema.resolve_eq_error_iff.mpr ⟨htype, rfl⟩)
    | refused htype hkey =>
      exact .inr ⟨_, Schema.resolve_eq_ok_iff.mpr htype, assignKey_eq_iff.mpr hkey⟩

theorem put_eq_ok_iff_puts {s : Store} {e : Entity} {saved : Saved} :
    s.put e = .ok saved ↔ Puts s e (.ok saved) := by
  rw [put_eq_ok_iff]
  constructor
  · rintro ⟨t, counter, ht, hassign, hstore⟩
    obtain ⟨hentered, rfl⟩ := entered_iff.mpr hstore
    have hkey := assignKey_eq_iff.mp hassign
    -- the entity has a key now, but the same list of persisted fields
    have hrecord : saved.entity.persisted.IsRestriction saved.entity.data e.properties :=
      Record.isRestriction_iff.mpr (by rw [Entity.persisted, hkey.properties_eq])
    exact .stored (Schema.resolve_eq_ok_iff.mp ht) hkey hrecord hentered
  · intro h
    cases h with
    | @stored t _ r htype hkey hrecord hentered =>
      have hpersisted : r = saved.entity.persisted := by
        rw [Entity.persisted, hkey.properties_eq]
        exact Record.isRestriction_iff.mp hrecord
      subst hpersisted
      exact ⟨t, saved.store.counter, Schema.resolve_eq_ok_iff.mpr htype,
        assignKey_eq_iff.mpr hkey, entered_iff.mp ⟨hentered, rfl⟩⟩

/-- Putting an entity in a store has the outcome that `Puts` describes, whatever the entity was made
of, and no other. -/
theorem put_eq_iff_puts (s : Store) (e : Entity) (outcome : Except Error Saved) :
    s.put e = outcome ↔ s.Puts e outcome := by
  cases outcome with
  | error cause => exact put_eq_error_iff_puts
  | ok saved => exact put_eq_ok_iff_puts

/-- A tag made of another definition has its key in another field.  It goes to the partition in which
the store keeps tags, with the one field of its own definition. -/
example :
    ((empty Catalog.builtIn).put (.ofType (.keyed "Tag" "labels" "id")
        ((Record.empty.insert "id" (.number (.ofWord 4))).insert "value" (.text "red")))).map
      (fun saved => (saved.key, saved.store.counter.next, (saved.store.partition "tags").entries)) =
    .ok ("4", 5, [("4", Record.empty.insert "id" (.number (.ofWord 4)))]) := by
  rfl

end Store

end RecordStore
