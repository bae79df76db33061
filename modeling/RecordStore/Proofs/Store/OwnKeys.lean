/-
# RecordStore.Proofs.Store.OwnKeys — records under the keys that they hold.

An entity is stored under the key that it holds.  A dataset lists its records under keys, fills in
the key of a record that has none, and leaves one that a record has as it is, even if it is another
than the key of the listing.  So after a run every record holds the key under which it is stored, or
was listed by a dataset under this key while it held another (`own_key_or_listed_under_other`).

What holds its own key can be taken out of a query, made an entity again, and be removed or put
back: `records_under_own_keys` says that this removes or replaces exactly the record it came from.
Putting back asks that the key leaves room for generated keys, as putting any key does.  Neither
condition can be left out (`tags_not_removed_or_put_back`).
-/
import RecordStore.Proofs.Store.Contents

namespace RecordStore

/-- A key is within reach if it writes no number, or a number that the counter can be moved past. -/
def KeyCounter.Reaches (key : String) : Prop :=
  ∀ number, KeyCounter.number? key = some number → number.toNat < 2 ^ 64 - 2

namespace Store

variable {s s' : Store} {t : EntityType} {r : Record} {key : String}

/-! ## Where records hold their keys -/

/-- A record with a key of its own is loaded with this key. -/
theorem loadedRecord_eq_project (ht : t.Valid) (hkey : r.key t.keyField ≠ .ok none) :
    loadedRecord t key r = r.project t.fieldNames := by
  have hkeyed : ¬ (r.project t.fieldNames).lacks t.keyField = true := by
    rw [Record.lacks_project ht.keyField_mem]
    intro hlacks
    exact hkey (Record.key_eq_none_iff.mpr hlacks)
  rw [Record.loadedRecord_eq_filled ht, Record.filled, if_neg hkeyed]

/-- A record that a typed run leaves in the partition of a type holds the key under which it is
stored, or a dataset of the run has listed it under this key while it held another. -/
theorem own_key_or_listed_under_other {schema : Schema} (hunshared : schema.Unshared)
    {ops : List Operation} (htyped : ∀ op ∈ ops, op.IsTyped schema) (ht : t ∈ schema.toList)
    (hr : (((empty schema).run ops).partition t.partition).get? key = some r) :
    r.key t.keyField = .ok (some key) ∨
      ∃ d given, (.load d ∈ ops ∨ .reset d ∈ ops) ∧ d.get? t.partition key = some given ∧
        given.key t.keyField ≠ .ok none ∧ given.key t.keyField ≠ .ok (some key) ∧
        r = given.project t.fieldNames := by
  obtain ⟨u, hu, hpartition, op, hop, given, hgiven, rfl⟩ := exists_supplied_run htyped _ _ _ hr
  obtain rfl := hunshared u hu t ht hpartition
  have hvalid : u.Valid := Schema.valid_of_mem_toList hu
  by_cases hown : given.key u.keyField = .ok none ∨ given.key u.keyField = .ok (some key)
  · exact .inl (Record.key_loadedRecord hvalid hown)
  · obtain ⟨hkeyed, hother⟩ := not_or.mp hown
    have hproject : loadedRecord u key given = given.project u.fieldNames :=
      loadedRecord_eq_project hvalid hkeyed
    -- an entity is never supplied for another key than it holds
    cases hgiven with
    | put hkey => exact absurd hkey hown
    | @load d _ _ _ hlisted =>
      exact .inr ⟨d, given, .inl hop, hlisted, hkeyed, hother, hproject⟩
    | @reset d _ _ _ hlisted =>
      exact .inr ⟨d, given, .inr hop, hlisted, hkeyed, hother, hproject⟩

/-! ## Records as entities again -/

/-- An entity that holds a key is removed from under it, and nothing else is. -/
theorem exists_removeEntity_ofType (ht : s.schema.resolve t.name = .ok t)
    (hkey : r.key t.keyField = .ok (some key)) :
    ∃ s', s.removeEntity (.ofType t r) = .ok s' ∧ s'.counter = s.counter ∧
      ∀ name, s'.partition name =
        if name = t.partition then (s.partition name).erase key else s.partition name := by
  have hremove : s.remove t.name key = .ok _ := remove_eq_ok_iff.mpr ⟨t, ht, rfl⟩
  exact ⟨_, removeEntity_eq_ok_iff.mpr (.inl ⟨key, hkey, hremove⟩),
    counter_of_remove hremove, partition_of_remove hremove ht⟩

theorem exists_claimKey (counter : KeyCounter) (hkey : KeyCounter.Reaches key) :
    ∃ counter', claimKey counter key = .ok counter' := by
  cases hnumber : KeyCounter.number? key with
  | none => exact ⟨counter, claimKey_eq_ok_iff.mpr (.inl ⟨hnumber, rfl⟩)⟩
  | some number =>
    cases hpast : counter.advancePast? number with
    | none =>
      have hlarge := KeyCounter.advancePast?_eq_none_iff.mp hpast
      have hsmall := hkey number hnumber
      omega
    | some counter' =>
      exact ⟨counter', claimKey_eq_ok_iff.mpr (.inr ⟨number, hnumber, hpast⟩)⟩

/-- A record of a type's shape is put under the key that it holds, as it is, and in the place of what
was there. -/
theorem exists_put_ofType (ht : s.schema.resolve t.name = .ok t) (hshape : r.HasShape t)
    (hkey : r.key t.keyField = .ok (some key)) (hreach : KeyCounter.Reaches key) :
    ∃ saved, s.put (.ofType t r) = .ok saved ∧ saved.key = key ∧
      saved.entity = .ofType t r ∧ ∀ name, saved.store.partition name =
        if name = t.partition then (s.partition name).insert key r else s.partition name := by
  obtain ⟨counter, hclaim⟩ := exists_claimKey s.counter hreach
  have hpersisted : (Entity.ofType t r).persisted = r := hshape.project_eq
  have hassign : assignKey s.counter (.ofType t r) = .ok (key, .ofType t r, counter) :=
    assignKey_eq_ok_iff.mpr (.inl ⟨hkey, rfl, hclaim⟩)
  have hput : s.put (.ofType t r) = .ok ⟨key, .ofType t r,
      { s with counter := counter }.setPartition t.partition
        ((s.partition t.partition).insert key r)⟩ :=
    put_eq_ok_iff.mpr ⟨t, counter, ht, hassign, by rw [hpersisted]⟩
  refine ⟨_, hput, rfl, rfl, ?_⟩
  intro name
  rw [partition_setPartition]
  split
  · rename_i hname
    rw [hname]
  · rfl

/-- After a typed run, with no partition shared, a type lists its records by keys.  A record holds
the key under which it is listed, unless a dataset of the run has listed it there while it held
another.  A record that holds its key can be made an entity of the type again.  To remove this
entity removes the record and nothing else.  To put it back, if its key is within reach, stores the
same record in its place, and changes nothing else. -/
theorem records_under_own_keys {schema : Schema} (hunshared : schema.Unshared)
    {ops : List Operation} (htyped : ∀ op ∈ ops, op.IsTyped schema) {typeName : String}
    (ht : schema.resolve typeName = .ok t) :
    ((empty schema).run ops).query typeName none =
      .ok ((((empty schema).run ops).partition t.partition).entries.map Prod.snd) ∧
    ∀ key r, (key, r) ∈ (((empty schema).run ops).partition t.partition).entries →
      (r.key t.keyField = .ok (some key) ∨
        ∃ d given, (.load d ∈ ops ∨ .reset d ∈ ops) ∧ d.get? t.partition key = some given ∧
          given.key t.keyField ≠ .ok none ∧ given.key t.keyField ≠ .ok (some key) ∧
          r = given.project t.fieldNames) ∧
      (r.key t.keyField = .ok (some key) →
        ∃ e, Entity.ofTypeNamed schema typeName r = .ok e ∧
          (∃ s', ((empty schema).run ops).removeEntity e = .ok s' ∧
            s'.counter = ((empty schema).run ops).counter ∧
            ∀ name, s'.partition name =
              if name = t.partition then (((empty schema).run ops).partition name).erase key
              else ((empty schema).run ops).partition name) ∧
          (KeyCounter.Reaches key →
            ∃ saved, ((empty schema).run ops).put e = .ok saved ∧ saved.key = key ∧
              saved.entity = e ∧
              ∀ name, saved.store.partition name = ((empty schema).run ops).partition name)) := by
  have hmem : t ∈ schema.toList := Schema.mem_toList_of_resolve ht
  have hname : t.name = typeName := Schema.name_of_resolve ht
  have hresolve : ((empty schema).run ops).schema.resolve typeName = .ok t := by
    rw [schema_run]
    exact ht
  refine ⟨query_none_of_resolve hresolve, ?_⟩
  intro key r hentry
  have hr := Partition.mem_entries_iff.mp hentry
  refine ⟨own_key_or_listed_under_other hunshared htyped hmem hr, ?_⟩
  intro hkey
  have hshape : r.HasShape t := by
    obtain ⟨u, hu, hshape⟩ := hasShape_run hunshared htyped t.partition key r hr
    obtain rfl : t = u := Option.some.inj ((hunshared.typeOfPartition?_of_mem hmem).symm.trans hu)
    exact hshape
  rw [← hname] at hresolve
  refine ⟨.ofType t r, Entity.ofTypeNamed_eq_ok_iff.mpr ⟨t, ht, rfl⟩,
    exists_removeEntity_ofType hresolve hkey, ?_⟩
  intro hreach
  obtain ⟨saved, hput, hsaved, hentity, hstore⟩ := exists_put_ofType hresolve hshape hkey hreach
  refine ⟨saved, hput, hsaved, hentity, ?_⟩
  intro name
  rw [hstore]
  split
  · rename_i hpartition
    subst hpartition
    exact Partition.insert_of_get? hr
  · rfl

/-- Tags with keys of their own: a number, one that a dataset gives, and one that is generated. -/
def keyedTags : List Operation :=
  [.put (.ofType Catalog.tag (Record.empty.insert "value" (.number (.ofWord 7)))),
    .load (Dataset.empty.insert "tags" "zoo" .empty),
    .put (.ofType Catalog.tag .empty)]

theorem keyedTags_typed : ∀ op ∈ keyedTags, op.IsTyped Catalog.builtIn := by
  simp only [keyedTags, List.forall_mem_cons, List.not_mem_nil, false_implies, implies_true]
  exact ⟨⟨"Tag", _, rfl⟩, trivial, ⟨"Tag", _, rfl⟩, trivial⟩

theorem keyedTags_under_own_keys :
    Catalog.builtIn.Unshared ∧ (∀ op ∈ keyedTags, op.IsTyped Catalog.builtIn) ∧
    Catalog.builtIn.resolve "Tag" = .ok Catalog.tag ∧
    (((empty Catalog.builtIn).run keyedTags).partition "tags").keys = ["7", "zoo", "8"] ∧
    ∃ r e, (((empty Catalog.builtIn).run keyedTags).partition "tags").get? "8" = some r ∧
      r.key "value" = .ok (some "8") ∧ KeyCounter.Reaches "8" ∧
      Entity.ofTypeNamed Catalog.builtIn "Tag" r = .ok e ∧
      (∃ s', ((empty Catalog.builtIn).run keyedTags).removeEntity e = .ok s' ∧
        s'.counter = ((empty Catalog.builtIn).run keyedTags).counter ∧
        ∀ name, s'.partition name =
          if name = "tags" then (((empty Catalog.builtIn).run keyedTags).partition name).erase "8"
          else ((empty Catalog.builtIn).run keyedTags).partition name) ∧
      ∃ saved, ((empty Catalog.builtIn).run keyedTags).put e = .ok saved ∧ saved.key = "8" ∧
        saved.entity = e ∧ ∀ name, saved.store.partition name =
          ((empty Catalog.builtIn).run keyedTags).partition name := by
  have htag : Catalog.builtIn.resolve "Tag" = .ok Catalog.tag := rfl
  obtain ⟨_, hrecords⟩ := records_under_own_keys Schema.builtIn_unshared keyedTags_typed htag
  obtain ⟨r, hr⟩ : ∃ r, (((empty Catalog.builtIn).run keyedTags).partition "tags").get? "8" =
      some r := ⟨_, rfl⟩
  obtain ⟨_, hown⟩ := hrecords "8" r (Partition.mem_entries_iff.mpr hr)
  have hkey : r.key "value" = .ok (some "8") := by
    obtain rfl := Option.some.inj hr
    rfl
  have hreach : KeyCounter.Reaches "8" := by
    intro number hnumber
    obtain rfl := Option.some.inj hnumber
    decide
  obtain ⟨e, he, hremove, hput⟩ := hown hkey
  exact ⟨Schema.builtIn_unshared, keyedTags_typed, htag, by decide, r, e, hr, hkey, hreach, he,
    hremove, hput hreach⟩

/-- Two tags that are not removed or put back as entities made of them.  One that a dataset lists
under `a` while it holds `b` is stored under `a` and keeps `b`: the entity made of it has the key
`b`, and to remove this entity leaves the tag where it is.  One whose key was generated from the last
word but one holds this key, and is not put back, since the key leaves no room for another. -/
theorem tags_not_removed_or_put_back :
    Catalog.builtIn.Unshared ∧
    (∃ s r e s', (empty Catalog.builtIn).load
        (Dataset.empty.insert "tags" "a" (Record.empty.insert "value" (.text "b"))) = .ok s ∧
      s.get "Tag" "a" = .ok (some r) ∧ r.key "value" = .ok (some "b") ∧
      s.query "Tag" none = .ok [r] ∧ Entity.ofTypeNamed Catalog.builtIn "Tag" r = .ok e ∧
      s.removeEntity e = .ok s' ∧ s'.query "Tag" none = .ok [r]) ∧
    ∃ s r e, s = (empty Catalog.builtIn).run
        [.put (.ofType Catalog.tag (Record.empty.insert "value" (.text "18446744073709551613"))),
          .put (.ofType Catalog.tag .empty)] ∧
      s.get "Tag" "18446744073709551614" = .ok (some r) ∧
      r.key "value" = .ok (some "18446744073709551614") ∧
      Entity.ofTypeNamed Catalog.builtIn "Tag" r = .ok e ∧
      s.put e = .error (.invalidRecord (.keyTooLarge "18446744073709551614")) :=
  ⟨Schema.builtIn_unshared, ⟨_, _, _, _, rfl, rfl, rfl, rfl, rfl, rfl, rfl⟩,
    _, _, _, rfl, rfl, rfl, rfl, rfl⟩

end Store

end RecordStore
