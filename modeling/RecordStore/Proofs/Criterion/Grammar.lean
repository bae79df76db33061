/-
# RecordStore.Proofs.Criterion.Grammar — which values are criteria.

The two forms of a criterion carry no tag, so an object may have the members of both.  The grammar
says which one counts: a group, if the object can be read as one down to the last of its children, and
a test otherwise.  One grandchild that is no criterion thus turns a group into a test, or into nothing.
For this reason the values that are criteria (`Criterion.Reads`) and those that are not
(`Criterion.Fails`) are described together.

Reading follows the grammar on every value, and gives back what has been written
(`ofValue?_follows_grammar`).
-/
import Mathlib.Data.List.Forall2
import RecordStore.Criterion.Basic
import RecordStore.Proofs.Store.KeyLookup

namespace RecordStore

/-- A map of two entries looks up either name. -/
theorem NameMap.get?_ofList_pair {α : Type} {a b : String} (h : a ≠ b) (v w : α) (name : String) :
    (ofList [(a, v), (b, w)]).get? name =
      if name = a then some v else if name = b then some w else none := by
  have hrest : ∀ name, (ofList [(b, w)]).get? name = if name = b then some w else none :=
    fun name => get?_ofList_cons b name w []
  rw [get?_ofList_cons, hrest, hrest, if_neg h]
  rfl

/-! ## Arrays and objects among the values -/

namespace Value

theorem object_inj {m n : NameMap Value} : object m = object n ↔ m = n :=
  ⟨fun h => by simpa using congrArg fields? h, congrArg object⟩

theorem array_inj {l k : List Value} : array l = array k ↔ l = k :=
  ⟨fun h => by simpa using congrArg items? h, congrArg array⟩

/-- A canonical array is the array of its items. -/
theorem exists_eq_array {l : List Json} (h : (Json.array l).Canonical) :
    ∃ items, (⟨.array l, h⟩ : Value) = array items := by
  refine ⟨(items? ⟨.array l, h⟩).get rfl, ext (congrArg Json.array ?_)⟩
  show l = (l.attach.map _).map _
  rw [List.map_map]
  exact l.attach_map_subtype_val.symm

/-- A canonical object is the object of its fields. -/
theorem exists_eq_object {l : List (String × Json)} (h : (Json.object l).Canonical) :
    ∃ fields, (⟨.object l, h⟩ : Value) = object fields := by
  refine ⟨(fields? ⟨.object l, h⟩).get rfl, ext (congrArg Json.object ?_)⟩
  show l = (l.attach.map _).map _
  rw [List.map_map]
  exact l.attach_map_subtype_val.symm

/-- What stands in an array is smaller than the array. -/
theorem sizeOf_lt_of_mem_array {items : List Value} {v : Value} (h : v ∈ items) :
    sizeOf v.json < sizeOf (array items).json := by
  have hlt := List.sizeOf_lt_of_mem (List.mem_map_of_mem (f := Value.json) h)
  show _ < sizeOf (Json.array _)
  rw [Json.array.sizeOf_spec]
  omega

/-- What stands in an object is smaller than the object. -/
theorem sizeOf_lt_of_get?_object {fields : NameMap Value} {name : String} {v : Value}
    (h : fields.get? name = some v) : sizeOf v.json < sizeOf (object fields).json := by
  have hget : (fields.map fun _ v => v.json).get? name = some v.json := by
    rw [NameMap.get?_map, h]
    rfl
  have hlt := List.sizeOf_lt_of_mem (NameMap.mem_entries_iff.mpr hget)
  show _ < sizeOf (Json.object _)
  rw [Prod.mk.sizeOf_spec] at hlt
  rw [Json.object.sizeOf_spec]
  omega

end Value

/-! ## Values of documents -/

theorem Json.canonicalItems_eq_map (l : List Json) : canonicalItems l = l.map canonicalForm := by
  induction l with
  | nil => rfl
  | cons item l ih => rw [canonicalItems, ih, List.map_cons]

theorem Value.ofJson_array (l : List Json) : ofJson (.array l) = array (l.map ofJson) := by
  refine ext (congrArg Json.array ?_)
  rw [Json.canonicalItems_eq_map, List.map_map]
  rfl

theorem Json.canonicalMembers_eq_map (l : List (String × Json)) :
    canonicalMembers l =
      (NameMap.ofList (l.map fun m => (m.1, Value.ofJson m.2))).map fun _ v => v.json := by
  induction l with
  | nil => rfl
  | cons m l ih =>
    apply NameMap.ext_get?
    intro name
    rw [canonicalMembers, ih, NameMap.get?_insertNew, NameMap.get?_map, NameMap.get?_map,
      NameMap.get?_map, List.map_cons, NameMap.get?_ofList_cons]
    by_cases hname : name = m.1
    · rw [if_pos hname, if_pos hname]
      cases (NameMap.ofList (l.map fun m => (m.1, Value.ofJson m.2))).get? m.1 <;> rfl
    · rw [if_neg hname, if_neg hname]

theorem Value.ofJson_object (l : List (String × Json)) :
    ofJson (.object l) = object (.ofList (l.map fun m => (m.1, ofJson m.2))) :=
  ext (congrArg (fun m : NameMap Json => Json.object m.entries) (Json.canonicalMembers_eq_map l))

namespace Criterion

/-! ## The grammar -/

/-- The group that a value is, where `R` tells what its children are. -/
inductive IsGroup (R : Value → Criterion → Prop) : Value → Criterion → Prop where
  | childless {fields : NameMap Value} {kind : String}
      (hkind : fields.get? "kind" = some (.text kind)) (hchildren : fields.get? "children" = none) :
      IsGroup R (.object fields) (.group kind [])
  | children {fields : NameMap Value} {kind : String} {items : List Value}
      {children : List Criterion} (hkind : fields.get? "kind" = some (.text kind))
      (hchildren : fields.get? "children" = some (.array items))
      (each : List.Forall₂ R items children) : IsGroup R (.object fields) (.group kind children)

/-- Why a value is no group, where `F` tells which of its children are no criteria. -/
inductive NoGroup (F : Value → Prop) : Value → Prop where
  | shape {v : Value} (h : ∀ fields, v ≠ .object fields) : NoGroup F v
  | kind {fields : NameMap Value} (hkind : ∀ kind, fields.get? "kind" ≠ some (.text kind)) :
      NoGroup F (.object fields)
  | children {fields : NameMap Value} {stored : Value}
      (hchildren : fields.get? "children" = some stored) (hstored : ∀ items, stored ≠ .array items) :
      NoGroup F (.object fields)
  | child {fields : NameMap Value} {items : List Value} {item : Value}
      (hchildren : fields.get? "children" = some (.array items)) (hmem : item ∈ items)
      (hitem : F item) : NoGroup F (.object fields)

/-- The test that a value is. -/
inductive IsTest : Value → Criterion → Prop where
  | test {fields : NameMap Value} {field : String} {value : Value}
      (hfield : fields.get? "field" = some (.text field))
      (hvalue : fields.get? "value" = some value) : IsTest (.object fields) (.test field value)

/-- Why a value is no test. -/
inductive NoTest : Value → Prop where
  | shape {v : Value} (h : ∀ fields, v ≠ .object fields) : NoTest v
  | field {fields : NameMap Value} (hfield : ∀ field, fields.get? "field" ≠ some (.text field)) :
      NoTest (.object fields)
  | value {fields : NameMap Value} (hvalue : fields.get? "value" = none) : NoTest (.object fields)

mutual

/-- The criterion that a value is: the group that it is, or else the test that it is. -/
inductive Reads : Value → Criterion → Prop where
  | group {v : Value} {c : Criterion} (h : IsGroup Reads v c) : Reads v c
  | test {v : Value} {c : Criterion} (noGroup : NoGroup Fails v) (h : IsTest v c) : Reads v c

/-- A value is no criterion: neither a group nor a test. -/
inductive Fails : Value → Prop where
  | neither {v : Value} (noGroup : NoGroup Fails v) (noTest : NoTest v) : Fails v

end

/-- A value is one of the children of an object. -/
inductive ChildOf (item : Value) : Value → Prop where
  | item {fields : NameMap Value} {items : List Value}
      (hchildren : fields.get? "children" = some (.array items)) (hmem : item ∈ items) :
      ChildOf item (.object fields)

section Grammar

variable {R S : Value → Criterion → Prop} {F : Value → Prop} {v item : Value}
  {fields : NameMap Value} {c : Criterion}

theorem ChildOf.sizeOf_lt (h : ChildOf item v) : sizeOf item.json < sizeOf v.json := by
  cases h with
  | item hchildren hmem =>
    exact Nat.lt_trans (Value.sizeOf_lt_of_mem_array hmem)
      (Value.sizeOf_lt_of_get?_object hchildren)

theorem isGroup_object_iff :
    IsGroup R (.object fields) c ↔ ∃ kind, fields.get? "kind" = some (.text kind) ∧
      (fields.get? "children" = none ∧ c = .group kind [] ∨
        ∃ items children, fields.get? "children" = some (.array items) ∧
          List.Forall₂ R items children ∧ c = .group kind children) := by
  constructor
  · intro h
    generalize hv : Value.object fields = v at h
    cases h with
    | childless hkind hchildren =>
      obtain rfl := Value.object_inj.mp hv
      exact ⟨_, hkind, .inl ⟨hchildren, rfl⟩⟩
    | children hkind hchildren each =>
      obtain rfl := Value.object_inj.mp hv
      exact ⟨_, hkind, .inr ⟨_, _, hchildren, each, rfl⟩⟩
  · rintro ⟨kind, hkind, ⟨hchildren, rfl⟩ | ⟨items, children, hchildren, each, rfl⟩⟩
    · exact .childless hkind hchildren
    · exact .children hkind hchildren each

theorem isTest_object_iff :
    IsTest (.object fields) c ↔ ∃ field value, fields.get? "field" = some (.text field) ∧
      fields.get? "value" = some value ∧ c = .test field value := by
  constructor
  · intro h
    generalize hv : Value.object fields = v at h
    cases h with
    | test hfield hvalue =>
      obtain rfl := Value.object_inj.mp hv
      exact ⟨_, _, hfield, hvalue, rfl⟩
  · rintro ⟨field, value, hfield, hvalue, rfl⟩
    exact .test hfield hvalue

/-- A group depends only on what its children are. -/
theorem IsGroup.imp (h : ∀ item, ChildOf item v → ∀ c, R item c → S item c) (hR : IsGroup R v c) :
    IsGroup S v c := by
  cases hR with
  | childless hkind hchildren => exact .childless hkind hchildren
  | @children fields kind items children hkind hchildren each =>
    refine .children hkind hchildren ?_
    have hitems : ∀ item ∈ items, ∀ c, R item c → S item c :=
      fun item hmem => h item (.item hchildren hmem)
    clear hchildren h
    induction each with
    | nil => exact .nil
    | cons hfirst _ ih =>
      obtain ⟨hitem, hrest⟩ := List.forall_mem_cons.mp hitems
      exact .cons (hitem _ hfirst) (ih hrest)

theorem isGroup_congr (h : ∀ item, ChildOf item v → ∀ c, R item c ↔ S item c) :
    IsGroup R v c ↔ IsGroup S v c :=
  ⟨.imp fun item hitem c => (h item hitem c).mp, .imp fun item hitem c => (h item hitem c).mpr⟩

/-- Items that are all criteria make up a list of criteria. -/
theorem exists_forall₂_iff {items : List Value} :
    (∃ children, List.Forall₂ R items children) ↔ ∀ item ∈ items, ∃ c, R item c := by
  induction items with
  | nil => simp
  | cons item items ih =>
    rw [List.forall_mem_cons, ← ih]
    constructor
    · rintro ⟨children, each⟩
      cases each with
      | cons hfirst hrest => exact ⟨⟨_, hfirst⟩, ⟨_, hrest⟩⟩
    · rintro ⟨⟨c, hfirst⟩, ⟨children, hrest⟩⟩
      exact ⟨c :: children, .cons hfirst hrest⟩

theorem noGroup_object_iff :
    NoGroup F (.object fields) ↔ (∀ kind, fields.get? "kind" ≠ some (.text kind)) ∨
      (∃ stored, fields.get? "children" = some stored ∧ ∀ items, stored ≠ .array items) ∨
      ∃ items, fields.get? "children" = some (.array items) ∧ ∃ item ∈ items, F item := by
  constructor
  · intro h
    generalize hv : Value.object fields = v at h
    cases h with
    | shape hshape => exact absurd hv.symm (hshape fields)
    | kind hkind =>
      obtain rfl := Value.object_inj.mp hv
      exact .inl hkind
    | children hchildren hstored =>
      obtain rfl := Value.object_inj.mp hv
      exact .inr (.inl ⟨_, hchildren, hstored⟩)
    | child hchildren hmem hitem =>
      obtain rfl := Value.object_inj.mp hv
      exact .inr (.inr ⟨_, hchildren, _, hmem, hitem⟩)
  · rintro (hkind | ⟨stored, hchildren, hstored⟩ | ⟨items, hchildren, item, hmem, hitem⟩)
    · exact .kind hkind
    · exact .children hchildren hstored
    · exact .child hchildren hmem hitem

theorem noTest_object_iff :
    NoTest (.object fields) ↔
      (∀ field, fields.get? "field" ≠ some (.text field)) ∨ fields.get? "value" = none := by
  constructor
  · intro h
    generalize hv : Value.object fields = v at h
    cases h with
    | shape hshape => exact absurd hv.symm (hshape fields)
    | field hfield =>
      obtain rfl := Value.object_inj.mp hv
      exact .inl hfield
    | value hvalue =>
      obtain rfl := Value.object_inj.mp hv
      exact .inr hvalue
  · rintro (hfield | hvalue)
    · exact .field hfield
    · exact .value hvalue

/-- A value that is no object has neither form. -/
theorem not_isGroup_of_shape (h : ∀ fields, v ≠ .object fields) : ¬ IsGroup R v c := by
  intro hgroup
  cases hgroup with
  | childless => exact h _ rfl
  | children => exact h _ rfl

theorem not_isTest_of_shape (h : ∀ fields, v ≠ .object fields) : ¬ IsTest v c := by
  intro htest
  cases htest
  exact h _ rfl

/-- What is no group is so for one of the reasons of `NoGroup`, if this is so for its children. -/
theorem noGroup_iff (h : ∀ item, ChildOf item v → (F item ↔ ∀ c, ¬ R item c)) :
    NoGroup F v ↔ ∀ c, ¬ IsGroup R v c := by
  by_cases hshape : ∃ fields, v = .object fields
  case neg =>
    have hshape := not_exists.mp hshape
    exact iff_of_true (.shape hshape) fun c => not_isGroup_of_shape hshape
  obtain ⟨fields, rfl⟩ := hshape
  simp only [noGroup_object_iff, isGroup_object_iff]
  constructor
  · rintro hno c ⟨kind, hkind, hgroup⟩
    obtain hkind' | ⟨stored, hchildren, hstored⟩ | ⟨items, hchildren, item, hmem, hitem⟩ := hno
    · exact hkind' kind hkind
    · rw [hchildren] at hgroup
      obtain ⟨hnone, -⟩ | ⟨items, children, hsome, -⟩ := hgroup
      · cases hnone
      · exact hstored items (Option.some.inj hsome)
    · rw [hchildren] at hgroup
      obtain ⟨hnone, -⟩ | ⟨items', children, hsome, each, -⟩ := hgroup
      · cases hnone
      · obtain rfl := Value.array_inj.mp (Option.some.inj hsome)
        obtain ⟨c, hc⟩ := exists_forall₂_iff.mp ⟨children, each⟩ item hmem
        exact (h item (.item hchildren hmem)).mp hitem c hc
  · intro hno
    by_contra hall
    simp only [not_or, not_forall, not_not, not_exists, not_and] at hall
    obtain ⟨⟨kind, hkind⟩, hstored, hitems⟩ := hall
    cases hchildren : fields.get? "children" with
    | none => exact hno _ ⟨kind, hkind, .inl ⟨hchildren, rfl⟩⟩
    | some stored =>
      obtain ⟨items, rfl⟩ := hstored stored hchildren
      have each : ∀ item ∈ items, ∃ c, R item c := by
        intro item hmem
        have hitem := hitems items hchildren item hmem
        rw [h item (.item hchildren hmem)] at hitem
        simpa using hitem
      obtain ⟨children, each⟩ := exists_forall₂_iff.mpr each
      exact hno _ ⟨kind, hkind, .inr ⟨items, children, hchildren, each, rfl⟩⟩

theorem noTest_iff : NoTest v ↔ ∀ c, ¬ IsTest v c := by
  by_cases hshape : ∃ fields, v = .object fields
  case neg =>
    have hshape := not_exists.mp hshape
    exact iff_of_true (.shape hshape) fun c => not_isTest_of_shape hshape
  obtain ⟨fields, rfl⟩ := hshape
  simp only [noTest_object_iff, isTest_object_iff]
  constructor
  · rintro (hfield | hvalue) c ⟨field, value, hfield', hvalue', -⟩
    · exact hfield field hfield'
    · cases hvalue.symm.trans hvalue'
  · intro hno
    by_contra hall
    simp only [not_or, not_forall, not_not] at hall
    obtain ⟨⟨field, hfield⟩, hvalue⟩ := hall
    obtain ⟨value, hvalue⟩ := Option.ne_none_iff_exists'.mp hvalue
    exact hno _ ⟨field, value, hfield, hvalue, rfl⟩

theorem reads_iff : Reads v c ↔ IsGroup Reads v c ∨ NoGroup Fails v ∧ IsTest v c := by
  constructor
  · intro h
    cases h with
    | group h => exact .inl h
    | test noGroup h => exact .inr ⟨noGroup, h⟩
  · rintro (h | ⟨noGroup, h⟩)
    · exact .group h
    · exact .test noGroup h

theorem fails_iff : Fails v ↔ NoGroup Fails v ∧ NoTest v := by
  constructor
  · rintro ⟨noGroup, noTest⟩
    exact ⟨noGroup, noTest⟩
  · rintro ⟨noGroup, noTest⟩
    exact .neither noGroup noTest

end Grammar

/-! ## Reading -/

section Reading

variable {fields : NameMap Value} {c : Criterion}

/-- An object has at most one member of each name. -/
theorem membersNamed_object (name : String) (fields : NameMap Value) :
    membersNamed name (fields.map fun _ v => v.json).entries =
      (fields.get? name).toList.map Value.json := by
  have hget : Entries.get? name (fields.map fun _ v => v.json).entries =
      (fields.get? name).map Value.json := NameMap.get?_map _ fields name
  rw [membersNamed, Entries.filter_eq_toList_get? (NameMap.nodup_of_ascending (NameMap.ascending _)),
    hget]
  cases fields.get? name <;> rfl

theorem childLists_eq_map (members : List (String × Json)) :
    childLists members = (membersNamed "children" members).map childList? := by
  induction members with
  | nil => rfl
  | cons m members ih =>
    rw [childLists, ih]
    by_cases h : m.1 = "children" <;> simp [membersNamed, h]

theorem toList_map_json_eq_singleton {o : Option Value} {v : Value} :
    o.toList.map Value.json = [v.json] ↔ o = some v := by
  cases o with
  | none => simp
  | some w => simp [Value.ext_iff]

theorem toList_map_json_eq_nil {o : Option Value} : o.toList.map Value.json = [] ↔ o = none := by
  cases o <;> simp

theorem allOfJson?_eq_some_iff {items : List Value} {children : List Criterion} :
    allOfJson? (items.map Value.json) = some children ↔
      List.Forall₂ (fun item c => ofValue? item = some c) items children := by
  induction items generalizing children with
  | nil => simp [allOfJson?, eq_comm]
  | cons item items ih =>
    rw [List.map_cons, allOfJson?, List.forall₂_cons_left_iff]
    constructor
    · intro h
      split at h
      · rename_i first rest hfirst hrest
        cases h
        exact ⟨first, rest, hfirst, ih.mp hrest, rfl⟩
      · cases h
    · rintro ⟨first, rest, hfirst, hrest, rfl⟩
      rw [show ofJson? item.json = some first from hfirst, ih.mpr hrest]

theorem childList?_eq_some_iff {stored : Value} {children : List Criterion} :
    childList? stored.json = some children ↔ ∃ items, stored = .array items ∧
      List.Forall₂ (fun item c => ofValue? item = some c) items children := by
  constructor
  · intro h
    obtain ⟨j, hj⟩ := stored
    cases j with
    | array l =>
      obtain ⟨items, heq⟩ := Value.exists_eq_array hj
      rw [heq] at h ⊢
      exact ⟨items, rfl, allOfJson?_eq_some_iff.mp h⟩
    | null => cases h
    | bool b => cases h
    | number n => cases h
    | text s => cases h
    | object members => cases h
  · rintro ⟨items, rfl, each⟩
    exact allOfJson?_eq_some_iff.mpr each

theorem groupOf?_eq_some_iff :
    groupOf? (fields.map fun _ v => v.json).entries
        (childLists (fields.map fun _ v => v.json).entries) = some c ↔
      IsGroup (fun item c => ofValue? item = some c) (.object fields) c := by
  unfold groupOf?
  rw [childLists_eq_map, membersNamed_object, membersNamed_object, isGroup_object_iff]
  constructor
  · intro h
    split at h
    · rename_i kind hkind hchildren
      cases h
      exact ⟨kind, toList_map_json_eq_singleton.mp hkind,
        .inl ⟨toList_map_json_eq_nil.mp (List.map_eq_nil_iff.mp hchildren), rfl⟩⟩
    · rename_i kind children hkind hchildren
      cases h
      cases hstored : fields.get? "children" with
      | none => simp [hstored] at hchildren
      | some stored =>
        have hread : childList? stored.json = some children := by simpa [hstored] using hchildren
        obtain ⟨items, rfl, each⟩ := childList?_eq_some_iff.mp hread
        exact ⟨kind, toList_map_json_eq_singleton.mp hkind, .inr ⟨items, children, rfl, each, rfl⟩⟩
    · cases h
  · rintro ⟨kind, hkind, ⟨hchildren, rfl⟩ | ⟨items, children, hchildren, each, rfl⟩⟩
    · rw [hkind, hchildren]
      rfl
    · have hread := childList?_eq_some_iff.mpr ⟨items, rfl, each⟩
      rw [hkind, hchildren]
      simp only [Option.toList_some, List.map_cons, List.map_nil, hread]
      rfl

theorem testOf?_eq_some_iff :
    testOf? (fields.map fun _ v => v.json).entries = some c ↔ IsTest (.object fields) c := by
  unfold testOf?
  rw [membersNamed_object, membersNamed_object, isTest_object_iff]
  constructor
  · intro h
    split at h
    · rename_i field value hfield hvalue
      cases h
      cases hstored : fields.get? "value" with
      | none => simp [hstored] at hvalue
      | some stored =>
        have hjson : stored.json = value := by simpa [hstored] using hvalue
        refine ⟨field, stored, toList_map_json_eq_singleton.mp hfield, rfl, ?_⟩
        rw [← hjson, Value.ofJson_json]
    · cases h
  · rintro ⟨field, value, hfield, hvalue, rfl⟩
    rw [hfield, hvalue]
    exact congrArg (fun v => some (Criterion.test field v)) value.ofJson_json

/-- Members other than the four are ignored. -/
theorem ofValue?_object_congr {other : NameMap Value}
    (h : ∀ name ∈ ["kind", "children", "field", "value"], fields.get? name = other.get? name) :
    ofValue? (.object fields) = ofValue? (.object other) := by
  have hmembers : ∀ name ∈ ["kind", "children", "field", "value"],
      membersNamed name (fields.map fun _ v => v.json).entries =
        membersNamed name (other.map fun _ v => v.json).entries := by
    intro name hname
    rw [membersNamed_object, membersNamed_object, h name hname]
  show (groupOf? _ (childLists _)).or (testOf? _) = (groupOf? _ (childLists _)).or (testOf? _)
  unfold groupOf? testOf?
  rw [childLists_eq_map, childLists_eq_map, hmembers "kind" (by simp), hmembers "children" (by simp),
    hmembers "field" (by simp), hmembers "value" (by simp)]

/-- Reading a value looks for a group first, and for a test if there is none. -/
theorem ofValue?_eq_some_iff {v : Value} :
    ofValue? v = some c ↔ IsGroup (fun item c => ofValue? item = some c) v c ∨
      (∀ c, ¬ IsGroup (fun item c => ofValue? item = some c) v c) ∧ IsTest v c := by
  by_cases hshape : ∃ fields, v = .object fields
  · obtain ⟨fields, rfl⟩ := hshape
    show (groupOf? _ _).or (testOf? _) = some c ↔ _
    rw [Option.or_eq_some_iff, groupOf?_eq_some_iff, testOf?_eq_some_iff,
      Option.eq_none_iff_forall_ne_some]
    simp only [ne_eq, groupOf?_eq_some_iff]
  · have hshape := not_exists.mp hshape
    refine iff_of_false ?_ ?_
    · obtain ⟨j, hj⟩ := v
      cases j with
      | object members =>
        obtain ⟨fields, hfields⟩ := Value.exists_eq_object hj
        exact absurd hfields (hshape fields)
      | null => nofun
      | bool b => nofun
      | number n => nofun
      | text s => nofun
      | array items => nofun
    · rintro (h | ⟨-, h⟩)
      · exact not_isGroup_of_shape hshape h
      · exact not_isTest_of_shape hshape h

/-- Reading tells what the grammar tells, criterion or not. -/
theorem ofValue?_iff (v : Value) :
    (∀ c, ofValue? v = some c ↔ Reads v c) ∧ (ofValue? v = none ↔ Fails v) := by
  have ih : ∀ item, ChildOf item v →
      (∀ c, ofValue? item = some c ↔ Reads item c) ∧ (ofValue? item = none ↔ Fails item) :=
    fun item _ => ofValue?_iff item
  have hgroup : ∀ c, IsGroup (fun item c => ofValue? item = some c) v c ↔ IsGroup Reads v c :=
    fun c => isGroup_congr fun item hitem => (ih item hitem).1
  have hno : NoGroup Fails v ↔ ∀ c, ¬ IsGroup Reads v c := by
    refine noGroup_iff fun item hitem => ?_
    rw [← (ih item hitem).2, Option.eq_none_iff_forall_ne_some]
    exact forall_congr' fun c => not_congr ((ih item hitem).1 c)
  have hread : ∀ c, ofValue? v = some c ↔ Reads v c := by
    intro c
    rw [ofValue?_eq_some_iff, reads_iff, hno]
    simp only [hgroup]
  refine ⟨hread, ?_⟩
  rw [Option.eq_none_iff_forall_ne_some, fails_iff, noTest_iff]
  constructor
  · intro hnone
    have noReading : ∀ c, ¬ Reads v c := fun c h => hnone c ((hread c).mpr h)
    have noGroup : NoGroup Fails v := hno.mpr fun c h => noReading c (.group h)
    exact ⟨noGroup, fun c h => noReading c (.test noGroup h)⟩
  · rintro ⟨noGroup, noTest⟩ c hsome
    obtain h | ⟨-, h⟩ := reads_iff.mp ((hread c).mp hsome)
    · exact hno.mp noGroup c h
    · exact noTest c h
termination_by sizeOf v.json
decreasing_by exact ChildOf.sizeOf_lt ‹_›

end Reading

/-! ## Writing -/

theorem ofJson_toJson_group (kind : String) (children : List Criterion) :
    Value.ofJson (Criterion.group kind children).toJson = .object (.ofList
      [("kind", .text kind), ("children", .array ((childrenToJson children).map .ofJson))]) := by
  rw [toJson, Value.ofJson_object, List.map_cons, List.map_cons, Value.ofJson_array]
  rfl

theorem ofJson_toJson_test (field : String) (value : Value) :
    Value.ofJson (Criterion.test field value).toJson =
      .object (.ofList [("field", .text field), ("value", value)]) := by
  rw [toJson, Value.ofJson_object, List.map_cons, List.map_cons, Value.ofJson_json]
  rfl

mutual

/-- A written criterion is what the grammar says it is. -/
theorem reads_toJson : ∀ c : Criterion, Reads (.ofJson c.toJson) c
  | .group kind children => by
    rw [ofJson_toJson_group]
    refine .group (.children ?_ ?_ (forall₂_reads_childrenToJson children))
    · rw [NameMap.get?_ofList_pair (by decide), if_pos rfl]
    · rw [NameMap.get?_ofList_pair (by decide), if_neg (by decide), if_pos rfl]
  | .test field value => by
    rw [ofJson_toJson_test]
    -- a test is written without a kind, so nothing can take it for a group
    refine .test (.kind ?_) (.test ?_ ?_)
    · intro kind
      rw [NameMap.get?_ofList_pair (by decide), if_neg (by decide), if_neg (by decide)]
      nofun
    · rw [NameMap.get?_ofList_pair (by decide), if_pos rfl]
    · rw [NameMap.get?_ofList_pair (by decide), if_neg (by decide), if_pos rfl]

theorem forall₂_reads_childrenToJson : ∀ children : List Criterion,
    List.Forall₂ Reads ((childrenToJson children).map .ofJson) children
  | [] => .nil
  | child :: rest => .cons (reads_toJson child) (forall₂_reads_childrenToJson rest)

end

/-- A value is read as the criterion that it is by the grammar, and refused if it is none; members
that no form has do not matter; and a criterion that was written is read back. -/
theorem ofValue?_follows_grammar :
    (∀ v c, ofValue? v = some c ↔ Reads v c) ∧
    (∀ v, ofValue? v = none ↔ Fails v) ∧
    (∀ fields other : NameMap Value,
      (∀ name ∈ ["kind", "children", "field", "value"], fields.get? name = other.get? name) →
      ofValue? (.object fields) = ofValue? (.object other)) ∧
    ∀ c : Criterion, ofValue? (.ofJson c.toJson) = some c :=
  ⟨fun v => (ofValue?_iff v).1, fun v => (ofValue?_iff v).2,
    fun _ _ => ofValue?_object_congr,
    fun c => ((ofValue?_iff _).1 c).mpr (reads_toJson c)⟩

/-- A test of `null` that would be a group, were its grandchild a criterion. -/
def twoForms (grandchild : List (String × Value)) : NameMap Value :=
  .ofList [("kind", .text "and"), ("children", .array [.object (.ofList
      [("kind", .text "or"), ("children", .array [.object (.ofList grandchild)])])]),
    ("field", .text "name"), ("value", .null)]

theorem twoForms_read :
    Reads (.object (twoForms [("field", .text "age")])) (.test "name" .null) ∧
    Reads (.object (twoForms [("field", .text "age"), ("value", .null)]))
      (.group "and" [.group "or" [.test "age" .null]]) ∧
    Fails (.object ((twoForms [("field", .text "age")]).erase "value")) ∧
    ofValue? (.object ((twoForms [("field", .text "age")]).insert "note" .null)) =
      some (.test "name" .null) ∧
    ofValue? (.ofJson (Criterion.group "or" [.all [], .test "age" .null]).toJson) =
      some (.group "or" [.all [], .test "age" .null]) := by
  obtain ⟨hreads, hfails, hother, hwritten⟩ := ofValue?_follows_grammar
  have htest : ofValue? (.object (twoForms [("field", .text "age")])) = some (.test "name" .null) :=
    rfl
  refine ⟨(hreads _ _).mp htest, (hreads _ _).mp rfl, (hfails _).mp rfl, ?_, hwritten _⟩
  rw [← htest]
  apply hother
  decide

end Criterion

end RecordStore
