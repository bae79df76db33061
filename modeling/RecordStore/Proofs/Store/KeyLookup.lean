/-
# RecordStore.Proofs.Store.KeyLookup — looking a key up, and asking for it in a criterion.

A record can be found under its key, and by a test of its key field against the key.  The first
looks at the text under which the record is stored, the second at what the record holds.  A key
that came as a string, or was generated, is held as a string, and then both find the same record.
A key that came as a number is held as that number, of which its text is no more than a spelling: a
test against a string does not find it (`query_of_key`, `number_key_unmatched`).
-/
import RecordStore.Proofs.Criterion.Reading
import RecordStore.Proofs.Store.Contents

namespace RecordStore

/-- In a list without repeated names there is at most one entry of a name. -/
theorem Entries.filter_eq_toList_get? {α : Type} {name : String} {l : List (String × α)}
    (h : (l.map Prod.fst).Nodup) :
    l.filter (fun e => e.1 = name) = ((get? name l).map fun value => (name, value)).toList := by
  induction l with
  | nil => rfl
  | cons entry rest ih =>
    obtain ⟨hhead, htail⟩ := List.nodup_cons.mp h
    by_cases hn : name = entry.1
    · subst hn
      have hrest : rest.filter (fun e => e.1 = entry.1) = [] := by
        rw [ih htail, get?_eq_none_iff.mpr hhead]
        rfl
      simp [get?, hrest]
    · rw [List.filter_cons_of_neg (by simpa using Ne.symm hn), ih htail, get?, if_neg hn]

/-- A test that only the record under a key can pass is a test of that record. -/
theorem Partition.filter_records_eq {p : Partition} {key : String} {test : Record → Bool}
    (h : ∀ k r, p.get? k = some r → test r = true → k = key) :
    p.records.filter test = (p.get? key).toList.filter test := by
  have hone : p.entries.filter (fun e => test e.2) =
      (p.entries.filter fun e => e.1 = key).filter fun e => test e.2 := by
    rw [List.filter_filter]
    refine List.filter_congr ?_
    rintro ⟨k, r⟩ he
    cases hr : test r with
    | false => rfl
    | true => simp [h k r (mem_entries_iff.mp he) hr]
  calc p.records.filter test
      = (p.entries.filter fun e => test e.2).map Prod.snd := List.filter_map
    _ = (((p.get? key).map fun r => (key, r)).toList.filter fun e => test e.2).map Prod.snd := by
      rw [hone, Entries.filter_eq_toList_get? p.nodup]
      rfl
    _ = (p.get? key).toList.filter test := by
      cases p.get? key with
      | none => rfl
      | some r => cases hr : test r <;> simp [hr]

namespace Store

/-- A test of the key field against a string compares the two as strings. -/
theorem query_keyField_of_resolve {s : Store} {typeName : String} {t : EntityType}
    (ht : s.schema.resolve typeName = .ok t) (key : String) :
    s.query typeName (some (.test t.keyField (.text key))) =
      .ok ((s.partition t.partition).records.filter
        (Predicate.textIs t.keyField key).matchesRecord) := by
  have hvalid : t.Valid := Schema.valid_of_mem_toList (Schema.mem_toList_of_resolve ht)
  have hcompile : Predicate.ofCriterion? t (some (.test t.keyField (.text key))) =
      .ok (.textIs t.keyField key) :=
    Predicate.compile_test_eq_ok_iff.mpr ⟨.key, hvalid, rfl⟩
  rw [query_of_resolve ht, hcompile]
  rfl

/-- Where every record holds the key under which it is stored, only the record under a key can hold
this key as a string. -/
theorem query_keyField_eq_filter_get {s : Store} {typeName : String} {t : EntityType}
    (ht : s.schema.resolve typeName = .ok t)
    (hkeys : ∀ k r, (s.partition t.partition).get? k = some r →
      r.key t.keyField = .ok (some k)) (key : String) :
    s.query typeName (some (.test t.keyField (.text key))) =
      .ok (((s.partition t.partition).get? key).toList.filter
        (Predicate.textIs t.keyField key).matchesRecord) := by
  rw [query_keyField_of_resolve ht]
  refine congrArg Except.ok (Partition.filter_records_eq ?_)
  intro k r hr hmatch
  obtain ⟨v, hv, htext⟩ := keyOfValue_eq_some_iff.mp (hkeys k r hr)
  obtain ⟨stored, hstored, hjson⟩ := Predicate.matchesRecord_textIs.mp hmatch
  obtain rfl : v = stored := Option.some.inj (hv.symm.trans hstored)
  cases htext with
  | text k =>
    cases hjson
    rfl
  | number n => cases hjson

/-- After puts of entities of the schema's types and removals, with no partition shared, a type is
asked for a key in two ways.  Where there is no record under the key, a test of the key field
against it finds nothing.  Where there is one, it holds the key as a string and is just what the
test finds, or it holds a number of which the key is the text and the test finds nothing. -/
theorem query_of_key {schema : Schema} (hunshared : schema.Unshared) (ops : List Operation)
    (hops : ∀ op ∈ ops, op.IsTyped schema ∧ op.IsSingle) {typeName : String} {t : EntityType}
    (ht : schema.resolve typeName = .ok t) (key : String) :
    ∃ found, ((empty schema).run ops).get typeName key = .ok found ∧
      (found = none → ((empty schema).run ops).query typeName
        (some (.test t.keyField (.text key))) = .ok []) ∧
      ∀ r, found = some r →
        (r.get? t.keyField = some (.text key) ∧ ((empty schema).run ops).query typeName
          (some (.test t.keyField (.text key))) = .ok [r]) ∨
        ∃ n : Json.Number, r.get? t.keyField = some (.number n) ∧ n.text = key ∧
          ((empty schema).run ops).query typeName
            (some (.test t.keyField (.text key))) = .ok [] := by
  have hresolve : ((empty schema).run ops).schema.resolve typeName = .ok t := by
    rw [schema_run]
    exact ht
  have hkeys : ∀ k r, (((empty schema).run ops).partition t.partition).get? k = some r →
      r.key t.keyField = .ok (some k) :=
    fun k r hr => holdsKey_run hunshared hops (Schema.mem_toList_of_resolve ht) hr
  refine ⟨_, get_of_resolve hresolve key, ?absent, ?present⟩
  case absent =>
    intro hnone
    rw [query_keyField_eq_filter_get hresolve hkeys, hnone]
    rfl
  case present =>
    intro r hr
    rw [query_keyField_eq_filter_get hresolve hkeys, hr]
    obtain ⟨v, hv, htext⟩ := keyOfValue_eq_some_iff.mp (hkeys key r hr)
    cases htext with
    | text key =>
      have hmatch : (Predicate.textIs t.keyField key).matchesRecord r = true :=
        Predicate.matchesRecord_textIs.mpr ⟨_, hv, rfl⟩
      exact .inl ⟨hv, by simp [hmatch]⟩
    | number n =>
      have hmatch : (Predicate.textIs t.keyField n.text).matchesRecord r = false := by
        rw [Bool.eq_false_iff]
        intro h
        obtain ⟨stored, hstored, hjson⟩ := Predicate.matchesRecord_textIs.mp h
        cases hv.symm.trans hstored
        cases hjson
      exact .inr ⟨n, hv, rfl, by simp [hmatch]⟩

/-- Tags with a key of each kind: a number, a string and one that is generated; another leaves. -/
def tagKeys : List Operation :=
  [.put (.ofType Catalog.tag (Record.empty.insert "value" (.number (.ofWord 7)))),
    .put (.ofType Catalog.tag (Record.empty.insert "value" (.text "art"))),
    .put (.ofType Catalog.tag .empty),
    .removeEntity (.ofType Catalog.tag (Record.empty.insert "value" (.text "zoo")))]

theorem tagKeys_typed : ∀ op ∈ tagKeys, op.IsTyped Catalog.builtIn ∧ op.IsSingle := by
  simp only [tagKeys, List.forall_mem_cons, List.not_mem_nil, false_implies, implies_true]
  exact ⟨⟨⟨"Tag", _, rfl⟩, trivial⟩, ⟨⟨"Tag", _, rfl⟩, trivial⟩, ⟨⟨"Tag", _, rfl⟩, trivial⟩,
    ⟨trivial, trivial⟩, trivial⟩

theorem query_of_key_generated :
    Catalog.builtIn.Unshared ∧
    (∀ op ∈ tagKeys, op.IsTyped Catalog.builtIn ∧ op.IsSingle) ∧
    Catalog.builtIn.resolve "Tag" = .ok Catalog.tag ∧
    ∃ found, ((empty Catalog.builtIn).run tagKeys).get "Tag" "8" = .ok found ∧
      (found = none → ((empty Catalog.builtIn).run tagKeys).query "Tag"
        (some (.test "value" (.text "8"))) = .ok []) ∧
      ∀ r, found = some r →
        (r.get? "value" = some (.text "8") ∧ ((empty Catalog.builtIn).run tagKeys).query "Tag"
          (some (.test "value" (.text "8"))) = .ok [r]) ∨
        ∃ n : Json.Number, r.get? "value" = some (.number n) ∧ n.text = "8" ∧
          ((empty Catalog.builtIn).run tagKeys).query "Tag"
            (some (.test "value" (.text "8"))) = .ok [] := by
  have htag : Catalog.builtIn.resolve "Tag" = .ok Catalog.tag := rfl
  exact ⟨Schema.builtIn_unshared, tagKeys_typed, htag,
    query_of_key Schema.builtIn_unshared tagKeys tagKeys_typed htag "8"⟩

/-- A tag that was put under the number 7 is there under the key `7`, and a test of its key field
against this key does not find it. -/
theorem number_key_unmatched :
    Catalog.builtIn.Unshared ∧
    (∀ op ∈ tagKeys, op.IsTyped Catalog.builtIn ∧ op.IsSingle) ∧
    ∃ r, ((empty Catalog.builtIn).run tagKeys).get "Tag" "7" = .ok (some r) ∧
      ((empty Catalog.builtIn).run tagKeys).query "Tag" (some (.test "value" (.text "7"))) ≠
        .ok [r] := by
  refine ⟨Schema.builtIn_unshared, tagKeys_typed, _, rfl, ?_⟩
  have hquery : ((empty Catalog.builtIn).run tagKeys).query "Tag"
      (some (.test "value" (.text "7"))) = .ok [] := by rfl
  rw [hquery]
  simp

end Store

end RecordStore
