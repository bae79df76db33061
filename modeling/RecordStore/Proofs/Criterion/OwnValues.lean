/-
# RecordStore.Proofs.Criterion.OwnValues — records asked for by what they hold.

A record offers tests of itself: a key or a string field against the string that it holds, a number
field against its number, a list field against one of its strings, numbers or truth values
(`Record.SelfTest`).  Each of them compiles, and the record passes it.  What has to be seen for this is
that the three comparisons of a test are reflexive on what a record can hold.  Strings are compared as
they are.  Numbers are compared as doubles, and a double may differ from itself; but the doubles of a
document are finite, and these do not.

So a record of a listing is in the answer to every conjunction of its own tests, in whatever way they
are nested (`exists_query_of_selfTests`), and whatever else the store holds.
-/
import RecordStore.Proofs.Criterion.TestSets
import RecordStore.Proofs.Criterion.Usable

namespace RecordStore

/-! ## Comparing a value with itself -/

theorem Json.Number.equal_toBinary64_self (n : Json.Number) :
    n.toBinary64.equal n.toBinary64 = true :=
  Number.Binary64.equal_self (Number.Binary64.isNaN_of_isFinite n.isFinite_toBinary64)

theorem Json.Number.same_self (n : Json.Number) : n.same n = true := by
  cases n with
  | integer n fits => simp [Json.Number.same]
  | float x finite => exact Number.Binary64.equal_self (Number.Binary64.isNaN_of_isFinite finite)

/-- A string, a number or a truth value is the same as itself. -/
theorem Value.HasText.same_self {v : Value} {text : String} (h : v.HasText text) :
    v.json.same v.json = true := by
  cases h with
  | text s => simp [Value.text, Json.same]
  | number n => simp [Value.number, Json.same, n.same_self]
  | yes => rfl
  | no => rfl

/-! ## Self-tests -/

/-- A field of a record and a value in it, against which the field can be tested: the string of a key
field or of a string field, the number of a number field, or an item of a list field that is a string,
a number or a truth value. -/
inductive Record.SelfTest (t : EntityType) (r : Record) : String → Value → Prop where
  | text {field s : String} {kind : FieldKind} (declared : t.fields.get? field = some kind)
      (hkind : kind = .key ∨ kind = .string) (held : r.get? field = some (.text s)) :
      SelfTest t r field (.text s)
  | number {field : String} {n : Json.Number} (declared : t.fields.get? field = some .number)
      (held : r.get? field = some (.number n)) : SelfTest t r field (.number n)
  | item {field text : String} {items : List Value} {v : Value}
      (declared : t.fields.get? field = some .array) (held : r.get? field = some (.array items))
      (hmem : v ∈ items) (htext : v.HasText text) : SelfTest t r field v

namespace Record.SelfTest

variable {t : EntityType} {r : Record} {field : String} {v : Value}

/-- A self-test is a sound test: its value has a text, and against a number field it is a number. -/
theorem sound (h : r.SelfTest t field v) : (Criterion.test field v).Sound t := by
  cases h with
  | text declared hkind held =>
    refine .test declared (.text _) fun hnumber => ?_
    rcases hkind with rfl | rfl <;> cases hnumber
  | @number n declared held => exact .test declared (.number n) fun _ => ⟨_, .number n⟩
  | item declared held hmem htext => exact .test declared htext fun hnumber => by cases hnumber

/-- A record passes its own tests. -/
theorem holds (h : r.SelfTest t field v) : (Criterion.test field v).Holds t r := by
  cases h with
  | text declared hkind held =>
    refine .test declared held ?_
    rcases hkind with rfl | rfl
    · exact .key (.text _)
    · exact .string (.text _)
  | @number n declared held =>
    exact .test declared held (.number (.number n) n.equal_toBinary64_self)
  | item declared held hmem htext =>
    exact .test declared held (.item (List.mem_map_of_mem hmem) htext.same_self)

theorem exists_compile (h : r.SelfTest t field v) :
    ∃ p, Predicate.compile t (.test field v) = .ok p := by
  rw [Predicate.exists_compile_eq_ok_iff, Criterion.nodes, List.forall_mem_singleton]
  exact h.sound

end Record.SelfTest

/-! ## The conjunction of a list of tests -/

namespace Criterion

variable {l : List (String × Value)}

/-- The conjunction of tests. -/
def allTests (l : List (String × Value)) : Criterion :=
  .all (l.map fun test => .test test.1 test.2)

theorem mem_nodes_allTests_iff {node : Criterion} :
    node ∈ (allTests l).nodes ↔ node = allTests l ∨ ∃ test ∈ l, node = .test test.1 test.2 := by
  rw [allTests, all, nodes, List.mem_cons, mem_nodesOf_iff]
  simp [nodes]

theorem conjunctive_allTests : Conjunctive (some (allTests l)) := by
  intro c hc kind children hmem
  obtain rfl := Option.some.inj hc
  rcases mem_nodes_allTests_iff.mp hmem with hgroup | ⟨test, _, htest⟩
  · exact (Criterion.group.inj hgroup).1
  · cases htest

theorem mem_tests_allTests_iff {test : String × Value} :
    test ∈ tests (some (allTests l)) ↔ test ∈ l := by
  have hnode : test ∈ tests (some (allTests l)) ↔
      Criterion.test test.1 test.2 ∈ (allTests l).nodes := by simp [tests]
  rw [hnode, mem_nodes_allTests_iff]
  simp [allTests, all]

end Criterion

/-! ## Queries -/

namespace Store

open Criterion (Conjunctive tests allTests)

variable {s : Store} {typeName : String} {t : EntityType} {r : Record}

/-- A record of a partition is in the answer to any conjunctive criterion that consists of its
self-tests. -/
theorem exists_query_of_selfTests (ht : s.schema.resolve typeName = .ok t)
    (hr : r ∈ (s.partition t.partition).records) {c : Criterion} (hc : Conjunctive (some c))
    (hself : ∀ test ∈ tests (some c), r.SelfTest t test.1 test.2) :
    ∃ found, s.query typeName (some c) = .ok found ∧ r ∈ found := by
  classical
  have hsound : ∀ test ∈ tests (some c), (Criterion.test test.1 test.2).Sound t :=
    fun test hmem => (hself test hmem).sound
  refine ⟨_, (query_eq_ok_iff_tests hc).mpr ⟨t, ht, hsound, rfl⟩, ?_⟩
  rw [List.mem_filter, decide_eq_true_iff]
  exact ⟨hr, fun test hmem => (hself test hmem).holds⟩

/-- A record that is listed for a type can be asked for by its own values.  Of any tests of the record
against what it holds each compiles for the type, and the query for all of them succeeds and has the
record in its answer. -/
theorem found_by_own_values (ht : s.schema.resolve typeName = .ok t) {listed : List Record}
    (hlisted : s.query typeName none = .ok listed) (hr : r ∈ listed)
    {ownTests : List (String × Value)}
    (hself : ∀ test ∈ ownTests, r.SelfTest t test.1 test.2) :
    (∀ test ∈ ownTests, ∃ p, Predicate.compile t (.test test.1 test.2) = .ok p) ∧
    ∃ found, s.query typeName (some (allTests ownTests)) = .ok found ∧ r ∈ found := by
  refine ⟨fun test hmem => (hself test hmem).exists_compile, ?_⟩
  obtain rfl : (s.partition t.partition).records = listed :=
    Except.ok.inj ((query_none_of_resolve ht).symm.trans hlisted)
  apply exists_query_of_selfTests ht hr Criterion.conjunctive_allTests
  intro test hmem
  exact hself test (Criterion.mem_tests_allTests_iff.mp hmem)

/-- A visitor with an empty address, a status beyond all exact doubles, and permissions of every sort
that can be tested. -/
def oddVisitor : Record :=
  ⟨.ofList [("email", .text ""), ("status", .number (.ofWord 18446744073709551615)),
    ("permissions", .array [.null, .number (.ofWord 7), .text "x\" || true", .bool false])]⟩

/-- The visitor between two others, one of them without any fields. -/
def oddVisitors : Store :=
  (empty Catalog.builtIn).setPartition "visitors"
    (((Partition.empty.insert "a" .empty).insert "b" oddVisitor).insert "c"
      (Record.empty.insert "email" (.text "")))

/-- What the visitor may be asked for by, the address twice. -/
def oddVisitorTests : List (String × Value) :=
  [("email", .text ""), ("status", .number (.ofWord 18446744073709551615)),
    ("permissions", .bool false), ("permissions", .text "x\" || true"), ("email", .text "")]

theorem oddVisitor_found :
    (∃ listed, oddVisitors.query "User" none = .ok listed ∧ oddVisitor ∈ listed ∧
      listed.length = 3) ∧
    (∀ test ∈ oddVisitorTests, oddVisitor.SelfTest Catalog.user test.1 test.2) ∧
    ∃ found, oddVisitors.query "User" (some (allTests oddVisitorTests)) = .ok found ∧
      oddVisitor ∈ found := by
  have hlisted : oddVisitors.query "User" none =
      .ok [.empty, oddVisitor, Record.empty.insert "email" (.text "")] := by rfl
  have hmem : oddVisitor ∈ [.empty, oddVisitor, Record.empty.insert "email" (.text "")] := by simp
  have hdeclared : Catalog.user.fields.get? "email" = some .string := by rfl
  have hemail : oddVisitor.SelfTest Catalog.user "email" (.text "") :=
    .text hdeclared (.inr rfl) (by rfl)
  have hstatus : oddVisitor.SelfTest Catalog.user "status"
      (.number (.ofWord 18446744073709551615)) := .number (by rfl) (by rfl)
  have hpermissions : oddVisitor.get? "permissions" = some
      (.array [.null, .number (.ofWord 7), .text "x\" || true", .bool false]) := by rfl
  have hself : ∀ test ∈ oddVisitorTests, oddVisitor.SelfTest Catalog.user test.1 test.2 := by
    simp only [oddVisitorTests, List.forall_mem_cons, List.not_mem_nil, false_implies,
      implies_true, and_true]
    exact ⟨hemail, hstatus, .item (by rfl) hpermissions (by simp) .no,
      .item (by rfl) hpermissions (by simp) (.text _), hemail⟩
  obtain ⟨-, hfound⟩ := found_by_own_values (by rfl) hlisted hmem hself
  exact ⟨⟨_, hlisted, hmem, rfl⟩, hself, hfound⟩

end Store

end RecordStore
