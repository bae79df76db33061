/-
# RecordStore.Proofs.Criterion.Usable — tests that some record passes.

A test that no record can pass is better refused than answered by an empty list.  Nearly all such tests
are refused when they are compiled: a test that compiles matches some record, with one exception.  A
number field may be tested against a string, and the strings that are read as doubles are more than
the numbers of a document.  `inf`, `nan` and `1e400` are read too, and no record holds a number that
equals the outcome (`accepted_test_usable`, `infinite_test_accepted`).
-/
import RecordStore.Proofs.Criterion.FirstFault
import RecordStore.Proofs.Criterion.WholeNumbers

namespace RecordStore

open Number (Binary64)

/-! ## Doubles that no document writes -/

theorem Number.Binary64.isNaN_of_isFinite {x : Binary64} (h : x.isFinite = true) :
    x.isNaN = false := by
  unfold isFinite at h
  unfold isNaN
  simp only [decide_eq_true_eq, decide_eq_false_iff_not] at h ⊢
  omega

/-- What equals a finite double is finite. -/
theorem Number.Binary64.isFinite_of_equal {x y : Binary64} (h : x.equal y = true)
    (hx : x.isFinite = true) : y.isFinite = true := by
  rcases equal_iff.mp h with ⟨_, rfl⟩ | ⟨_, hy⟩
  · exact hx
  · rw [isFinite, hy]
    decide

theorem Json.Number.isFinite_toBinary64 (n : Json.Number) : n.toBinary64.isFinite = true := by
  cases n with
  | integer n fits => exact Binary64.isFinite_ofInt fits.natAbs_lt
  | float x finite => exact finite

/-- The doubles that some number of a document equals are the finite ones. -/
theorem Number.Binary64.exists_equal_iff {x : Binary64} :
    (∃ n : Json.Number, n.toBinary64.equal x = true) ↔ x.isFinite = true := by
  constructor
  · rintro ⟨n, hn⟩
    exact isFinite_of_equal hn n.isFinite_toBinary64
  · intro h
    exact ⟨.float x h, equal_self (isNaN_of_isFinite h)⟩

/-- A string that writes, between blanks, a double that is infinite or no number. -/
def Value.WritesNonFinite (v : Value) : Prop :=
  ∃ s x, v = .text s ∧ Number.binary64? (Text.trim s.toList) = some x ∧ x.isFinite = false

theorem Value.Denotes.isFinite_iff {v : Value} {x : Binary64} (h : v.Denotes x) :
    x.isFinite = true ↔ ¬ v.WritesNonFinite := by
  constructor
  · rintro hx ⟨s, y, rfl, hy, hinfinite⟩
    rw [h.unique (.text hy), hinfinite] at hx
    cases hx
  · intro hwrites
    cases h with
    | number n => exact n.isFinite_toBinary64
    | @text s x h =>
      rw [← Bool.not_eq_false]
      exact fun hinfinite => hwrites ⟨s, x, rfl, h, hinfinite⟩

/-! ## Passing a test -/

/-- A sound test is passed by some stored value, unless it is given a string for a number that no
document writes. -/
theorem Value.exists_passedBy_iff {v : Value} {text : String} {kind : FieldKind}
    (htext : v.HasText text) (hnumber : kind = .number → ∃ x, v.Denotes x) :
    (∃ stored : Value, v.PassedBy kind stored.json) ↔ ¬ (kind = .number ∧ v.WritesNonFinite) := by
  cases kind with
  | key => exact iff_of_true ⟨.text text, .key htext⟩ (by simp)
  | string => exact iff_of_true ⟨.text text, .string htext⟩ (by simp)
  | array =>
    exact iff_of_true ⟨.array [.text text], .textItem htext List.mem_cons_self⟩ (by simp)
  | number =>
    obtain ⟨x, hx⟩ := hnumber rfl
    simp only [true_and]
    rw [← hx.isFinite_iff, ← Binary64.exists_equal_iff]
    simp only [Value.passedBy_number_iff hx]
    constructor
    · rintro ⟨_, n, _, heq⟩
      exact ⟨n, heq⟩
    · rintro ⟨n, heq⟩
      exact ⟨.number n, n, rfl, heq⟩

namespace Predicate

variable {t : EntityType} {field : String} {kind : FieldKind} {v : Value} {p : Predicate}

theorem exists_compile_test_eq_ok_iff (hfield : t.fields.get? field = some kind) :
    (∃ p, compile t (.test field v) = .ok p) ↔
      (∃ text, v.HasText text) ∧ (kind = .number → ∃ x, v.Denotes x) := by
  rw [exists_compile_eq_ok_iff, Criterion.nodes, List.forall_mem_singleton]
  constructor
  · intro h
    cases h with
    | test declared htext hnumber =>
      obtain rfl : kind = _ := Option.some.inj (hfield.symm.trans declared)
      exact ⟨⟨_, htext⟩, hnumber⟩
  · rintro ⟨⟨text, htext⟩, hnumber⟩
    exact .test hfield htext hnumber

theorem exists_matchesRecord_iff (hfield : t.fields.get? field = some kind)
    (h : compile t (.test field v) = .ok p) :
    (∃ r, p.matchesRecord r = true) ↔ ¬ (kind = .number ∧ v.WritesNonFinite) := by
  obtain ⟨⟨text, htext⟩, hnumber⟩ := (exists_compile_test_eq_ok_iff hfield).mp ⟨p, h⟩
  rw [← Value.exists_passedBy_iff htext hnumber]
  simp only [matchesRecord_iff_holds _ _ p h, Criterion.holds_test_iff hfield]
  constructor
  · rintro ⟨r, stored, _, hpassed⟩
    exact ⟨stored, hpassed⟩
  · rintro ⟨stored, hpassed⟩
    refine ⟨Record.empty.insert field stored, stored, ?_, hpassed⟩
    rw [Record.get?_insert, if_pos rfl]

/-- A test on a declared field is refused for its value only. -/
theorem exists_fault_of_compile_test (hfield : t.fields.get? field = some kind) {cause : Error}
    (h : compile t (.test field v) = .error cause) :
    ∃ fault, cause = .unsupportedCriterion fault := by
  cases compile_test_eq_error_iff.mp h with
  | undeclared v hundeclared => cases hfield.symm.trans hundeclared
  | untestable => exact ⟨_, rfl⟩
  | notNumeric => exact ⟨_, rfl⟩

/-- A string for a number that no document writes is accepted, and nothing matches. -/
theorem compile_of_writesNonFinite (hfield : t.fields.get? field = some .number)
    (hv : v.WritesNonFinite) :
    ∃ p, compile t (.test field v) = .ok p ∧ ∀ r, p.matchesRecord r = false := by
  obtain ⟨p, hp⟩ : ∃ p, compile t (.test field v) = .ok p := by
    obtain ⟨s, x, rfl, hx, _⟩ := hv
    exact (exists_compile_test_eq_ok_iff hfield).mpr ⟨⟨s, .text s⟩, fun _ => ⟨x, .text hx⟩⟩
  refine ⟨p, hp, fun r => ?_⟩
  rw [← Bool.not_eq_true]
  intro hr
  exact (exists_matchesRecord_iff hfield hp).mp ⟨r, hr⟩ ⟨rfl, hv⟩

end Predicate

/-! ## Queries -/

namespace Store

/-- A test on a declared field either is refused for its value, or is matched by some record, with one
exception: a number field tested against a string that writes a double that is infinite or no number.
Such a test is accepted, and a query with it gives an empty list, whatever the store holds. -/
theorem accepted_test_usable {t : EntityType} {field : String} {kind : FieldKind}
    (hfield : t.fields.get? field = some kind) (v : Value) :
    (∀ p, Predicate.compile t (.test field v) = .ok p →
      ((∃ r, p.matchesRecord r = true) ↔ ¬ (kind = .number ∧ v.WritesNonFinite))) ∧
    (∀ cause, Predicate.compile t (.test field v) = .error cause →
      ∃ fault, cause = .unsupportedCriterion fault) ∧
    (kind = .number → v.WritesNonFinite → ∀ (s : Store) (typeName : String),
      s.schema.resolve typeName = .ok t → s.query typeName (some (.test field v)) = .ok []) := by
  refine ⟨fun p => Predicate.exists_matchesRecord_iff hfield,
    fun cause => Predicate.exists_fault_of_compile_test hfield, ?_⟩
  rintro rfl hv s typeName ht
  obtain ⟨p, hp, hnone⟩ := Predicate.compile_of_writesNonFinite hfield hv
  have hempty : (s.partition t.partition).records.filter p.matchesRecord = [] := by
    simp [hnone]
  rw [query_of_resolve ht, Predicate.ofCriterion?, hp]
  exact congrArg Except.ok hempty

theorem count_tests_usable :
    Catalog.tag.fields.get? "count" = some .number ∧
    (∃ p, Predicate.compile Catalog.tag (.test "count" (.number (.ofWord 3))) = .ok p ∧
      ∃ r, p.matchesRecord r = true) ∧
    (∃ fault, Predicate.compile Catalog.tag (.test "count" (.text "three")) =
      .error (.unsupportedCriterion fault)) ∧
    (empty Catalog.builtIn).query "Tag" (some (.test "count" (.text " -Infinity "))) = .ok [] := by
  have hcount : Catalog.tag.fields.get? "count" = some .number := by rfl
  have hresolve : (empty Catalog.builtIn).schema.resolve "Tag" = .ok Catalog.tag := by rfl
  obtain ⟨husable, -, -⟩ := accepted_test_usable hcount (.number (.ofWord 3))
  obtain ⟨-, hfault, -⟩ := accepted_test_usable hcount (.text "three")
  obtain ⟨-, -, hsilent⟩ := accepted_test_usable hcount (.text " -Infinity ")
  refine ⟨hcount, ⟨_, rfl, (husable _ rfl).mpr ?_⟩, ?_, ?_⟩
  · rintro ⟨-, s, x, h, -⟩
    cases congrArg Value.json h
  · obtain ⟨fault, hcause⟩ := hfault _ rfl
    exact ⟨fault, congrArg Except.error hcause⟩
  · exact hsilent rfl ⟨_, _, rfl, rfl, rfl⟩ _ "Tag" hresolve

/-- The word for infinity is accepted as a test of the number of uses, which no record passes. -/
theorem infinite_test_accepted :
    Catalog.tag.fields.get? "count" = some .number ∧
    ∃ p, Predicate.compile Catalog.tag (.test "count" (.text "inf")) = .ok p ∧
      ∀ r, p.matchesRecord r = false := by
  have hcount : Catalog.tag.fields.get? "count" = some .number := by rfl
  exact ⟨hcount, Predicate.compile_of_writesNonFinite hcount ⟨_, _, rfl, rfl, rfl⟩⟩

end Store

end RecordStore
