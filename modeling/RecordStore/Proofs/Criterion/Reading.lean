/-
# RecordStore.Proofs.Criterion.Reading — what a criterion says of a record.

A query compiles its criterion before it looks at a record.  This file reads a criterion without
the compiler: `Criterion.Holds` says directly, from the declared kind of a field and from what a
tested value stands for, when a criterion holds of a record.  The two agree on every criterion that
compiles (`matchesRecord_iff_holds`), so a query with a criterion is the query without one, cut down
to the records of which the criterion holds (`query_eq_filter`).

The reading asks less than the compiler does.  It has a meaning for criteria that are refused too,
where a faulty test simply holds of nothing or of few records; nothing is said of these.
-/
import RecordStore.Catalog
import RecordStore.Proofs.Store.Laws

namespace RecordStore

/-! ## What a tested value stands for -/

namespace Value

/-- The text of a value: strings, numbers and truth values have one. -/
inductive HasText : Value → String → Prop where
  | text (s : String) : HasText (.text s) s
  | number (n : Json.Number) : HasText (.number n) n.text
  | yes : HasText (.bool true) "true"
  | no : HasText (.bool false) "false"

/-- The double of a value: a number has its own, and a string the one it writes between blanks. -/
inductive Denotes : Value → Number.Binary64 → Prop where
  | number (n : Json.Number) : Denotes (.number n) n.toBinary64
  | text {s : String} {x : Number.Binary64} (h : Number.binary64? (Text.trim s.toList) = some x) :
      Denotes (.text s) x

/-- When what a field of a kind holds passes the test against a value. -/
inductive PassedBy (v : Value) : FieldKind → Json → Prop where
  | key {s : String} (h : v.HasText s) : PassedBy v .key (.text s)
  | string {s : String} (h : v.HasText s) : PassedBy v .string (.text s)
  | number {n : Json.Number} {x : Number.Binary64} (h : v.Denotes x)
      (heq : n.toBinary64.equal x = true) : PassedBy v .number (.number n)
  | item {items : List Json} {item : Json} (hmem : item ∈ items)
      (hsame : item.same v.json = true) : PassedBy v .array (.array items)
  | textItem {items : List Json} {s : String} (h : v.HasText s) (hmem : .text s ∈ items) :
      PassedBy v .array (.array items)

/-- A value has at most one text. -/
theorem HasText.unique {v : Value} {a b : String} (ha : v.HasText a) (hb : v.HasText b) :
    a = b := by
  cases ha <;> cases hb <;> rfl

/-- A value denotes at most one double. -/
theorem Denotes.unique {v : Value} {x y : Number.Binary64} (hx : v.Denotes x)
    (hy : v.Denotes y) : x = y := by
  cases hx with
  | number n =>
    cases hy with
    | number => rfl
  | text hx =>
    cases hy with
    | text hy => exact Option.some.inj (hx.symm.trans hy)

section PassedBy

variable {v : Value} {text : String} {stored : Json}

/-- A key field passes with the text of the tested value, and with nothing else. -/
theorem passedBy_key_iff (hv : v.HasText text) :
    v.PassedBy .key stored ↔ stored = .text text := by
  constructor
  · intro h
    cases h with
    | key hs => rw [hs.unique hv]
  · rintro rfl
    exact .key hv

theorem passedBy_string_iff (hv : v.HasText text) :
    v.PassedBy .string stored ↔ stored = .text text := by
  constructor
  · intro h
    cases h with
    | string hs => rw [hs.unique hv]
  · rintro rfl
    exact .string hv

/-- A number field passes with every number of the double that the tested value denotes. -/
theorem passedBy_number_iff {x : Number.Binary64} (hv : v.Denotes x) :
    v.PassedBy .number stored ↔
      ∃ n : Json.Number, stored = .number n ∧ n.toBinary64.equal x = true := by
  constructor
  · intro h
    cases h with
    | number hx heq =>
      rw [hx.unique hv] at heq
      exact ⟨_, rfl, heq⟩
  · rintro ⟨n, rfl, heq⟩
    exact .number hv heq

/-- A list field passes with every list that has the tested value or its text as an item. -/
theorem passedBy_array_iff (hv : v.HasText text) :
    v.PassedBy .array stored ↔
      ∃ items, stored = .array items ∧
        ∃ item ∈ items, item.same v.json = true ∨ item = .text text := by
  constructor
  · intro h
    cases h with
    | item hmem hsame => exact ⟨_, rfl, _, hmem, .inl hsame⟩
    | textItem hs hmem =>
      rw [hs.unique hv] at hmem
      exact ⟨_, rfl, _, hmem, .inr rfl⟩
  · rintro ⟨items, rfl, item, hmem, hsame | rfl⟩
    · exact .item hmem hsame
    · exact .textItem hv hmem

end PassedBy

end Value

/-! ## Reading a criterion -/

/-- Whether a criterion holds of a record of a type. -/
inductive Criterion.Holds (t : EntityType) (r : Record) : Criterion → Prop where
  | all {children : List Criterion} (each : ∀ child ∈ children, Holds t r child) :
      Holds t r (.group Criterion.conjunction children)
  | test {field : String} {kind : FieldKind} {v stored : Value}
      (declared : t.fields.get? field = some kind) (present : r.get? field = some stored)
      (passed : v.PassedBy kind stored.json) : Holds t r (.test field v)

namespace Criterion

variable {t : EntityType} {r : Record}

/-- A conjunction holds when all its parts do. -/
theorem holds_all_iff {children : List Criterion} :
    (Criterion.all children).Holds t r ↔ ∀ child ∈ children, child.Holds t r := by
  constructor
  · intro h
    cases h with
    | all each => exact each
  · exact Holds.all

theorem holds_test_iff {field : String} {kind : FieldKind} {v : Value}
    (declared : t.fields.get? field = some kind) :
    (Criterion.test field v).Holds t r ↔
      ∃ stored, r.get? field = some stored ∧ v.PassedBy kind stored.json := by
  constructor
  · intro h
    cases h with
    | test declared' present passed =>
      cases declared.symm.trans declared'
      exact ⟨_, present, passed⟩
  · rintro ⟨stored, present, passed⟩
    exact .test declared present passed

/-- No test holds of a record that lacks the field, or holds `null` in it. -/
theorem not_holds_test {field : String} {v : Value}
    (h : r.get? field = none ∨ r.get? field = some .null) :
    ¬ (Criterion.test field v).Holds t r := by
  intro hholds
  cases hholds with
  | test declared present passed =>
    rcases h with h | h
    · cases h.symm.trans present
    · -- the field holds `null`, and no kind of field has a rule for that
      cases h.symm.trans present
      cases passed

end Criterion

/-! ## Compiling a test -/

namespace Predicate

theorem testText_eq_ok_iff {field text : String} {v : Value} :
    testText field v = .ok text ↔ v.HasText text := by
  obtain ⟨j, hj⟩ := v
  constructor
  · intro h
    cases j with
    | text s =>
      cases h
      exact .text text
    | number n =>
      cases h
      exact .number n
    | bool b =>
      cases b with
      | true =>
        cases h
        exact .yes
      | false =>
        cases h
        exact .no
    | null => cases h
    | array items => cases h
    | object members => cases h
  · intro h
    cases h <;> rfl

/-- The words for the truth values do not write numbers. -/
theorem binary64?_truth (b : Bool) :
    Number.binary64? (Text.trim (if b then "true" else "false").toList) = none := by
  cases b <;> decide

theorem testNumber?_eq_some_iff {text : String} {v : Value} {x : Number.Binary64}
    (h : v.HasText text) : testNumber? v text = some x ↔ v.Denotes x := by
  constructor
  · intro hx
    cases h with
    | text => exact .text hx
    | number n =>
      cases hx
      exact .number n
    | yes => cases (binary64?_truth true).symm.trans hx
    | no => cases (binary64?_truth false).symm.trans hx
  · intro hx
    cases hx with
    | number n => rfl
    | text hx =>
      cases h
      exact hx

/-! ## Matching a test -/

section Matching

variable {field text : String} {r : Record}

theorem matchesRecord_textIs :
    (textIs field text).matchesRecord r = true ↔
      ∃ stored, r.get? field = some stored ∧ stored.json = .text text := by
  rw [matchesRecord]
  cases hr : r.get? field with
  | none => simp
  | some stored =>
    obtain ⟨j, hj⟩ := stored
    cases j <;> simp

theorem matchesRecord_numberIs {x : Number.Binary64} :
    (numberIs field x).matchesRecord r = true ↔
      ∃ stored, r.get? field = some stored ∧
        ∃ n : Json.Number, stored.json = .number n ∧ n.toBinary64.equal x = true := by
  rw [matchesRecord]
  cases hr : r.get? field with
  | none => simp
  | some stored =>
    obtain ⟨j, hj⟩ := stored
    cases j <;> simp

theorem matchesRecord_holds {v : Value} :
    (holds field v text).matchesRecord r = true ↔
      ∃ stored, r.get? field = some stored ∧
        ∃ items, stored.json = .array items ∧ ∃ item ∈ items, itemMatches v text item = true := by
  rw [matchesRecord]
  cases hr : r.get? field with
  | none => simp
  | some stored =>
    obtain ⟨j, hj⟩ := stored
    cases j <;> simp

theorem itemMatches_iff {v : Value} {item : Json} :
    itemMatches v text item = true ↔ item.same v.json = true ∨ item = .text text := by
  unfold itemMatches
  rw [Bool.or_eq_true]
  refine or_congr_right ?_
  cases item with
  | text s => rw [beq_iff_eq, Json.text.injEq]
  | null => simp
  | bool b => simp
  | number n => simp
  | array items => simp
  | object members => simp

end Matching

/-- A test that compiles matches a record exactly when what the field holds passes it. -/
theorem matchesRecord_ofTest {field : String} {kind : FieldKind} {v : Value} {p : Predicate}
    (h : ofTest field kind v = .ok p) (r : Record) :
    p.matchesRecord r = true ↔
      ∃ stored, r.get? field = some stored ∧ v.PassedBy kind stored.json := by
  obtain ⟨text, htext, h⟩ := bind_eq_ok_iff.mp h
  have hv : v.HasText text := testText_eq_ok_iff.mp htext
  cases kind with
  | key =>
    cases h
    simp only [matchesRecord_textIs, Value.passedBy_key_iff hv]
  | string =>
    cases h
    simp only [matchesRecord_textIs, Value.passedBy_string_iff hv]
  | number =>
    cases hx : testNumber? v text with
    | none =>
      -- a value that denotes no number is refused
      rw [hx] at h
      cases h
    | some x =>
      rw [hx] at h
      cases h
      have hd : v.Denotes x := (testNumber?_eq_some_iff hv).mp hx
      simp only [matchesRecord_numberIs, Value.passedBy_number_iff hd]
  | array =>
    cases h
    simp only [matchesRecord_holds, itemMatches_iff, Value.passedBy_array_iff hv]

/-! ## Compiling a criterion -/

/-- A conjunction compiles part by part; one without parts admits every record. -/
theorem compile_group_eq_ok_iff {t : EntityType} {kind : String} {children : List Criterion}
    {p : Predicate} :
    compile t (.group kind children) = .ok p ↔
      kind = Criterion.conjunction ∧
        ∃ ps, compileAll t children = .ok ps ∧ p = if children = [] then .always else .all ps := by
  rw [compile.eq_def]
  by_cases hk : kind = Criterion.conjunction
  · simp only [hk, if_true, true_and]
    cases children with
    | nil =>
      constructor
      · intro h
        cases h
        exact ⟨[], rfl, rfl⟩
      · rintro ⟨ps, _, rfl⟩
        rfl
    | cons child rest =>
      simp only [compileAll, bind_eq_ok_iff]
      constructor
      · rintro ⟨first, hfirst, others, hothers, h⟩
        cases h
        exact ⟨_, ⟨first, hfirst, others, hothers, rfl⟩, rfl⟩
      · rintro ⟨ps, ⟨first, hfirst, others, hothers, h⟩, rfl⟩
        cases h
        exact ⟨first, hfirst, others, hothers, rfl⟩
  · simp [hk]

theorem compile_test_eq_ok_iff {t : EntityType} {field : String} {v : Value} {p : Predicate} :
    compile t (.test field v) = .ok p ↔
      ∃ kind, t.fields.get? field = some kind ∧ ofTest field kind v = .ok p := by
  rw [compile, bind_eq_ok_iff]
  refine exists_congr fun kind => and_congr_left fun _ => ?_
  unfold EntityType.kind
  cases t.fields.get? field <;> simp

mutual

/-- A criterion that compiles matches exactly the records of which it holds. -/
theorem matchesRecord_iff_holds {t : EntityType} (r : Record) :
    ∀ (c : Criterion) (p : Predicate), compile t c = .ok p →
      (p.matchesRecord r = true ↔ c.Holds t r)
  | .test field v, p, h => by
    obtain ⟨kind, declared, h⟩ := compile_test_eq_ok_iff.mp h
    rw [matchesRecord_ofTest h, Criterion.holds_test_iff declared]
  | .group kind children, p, h => by
    obtain ⟨rfl, ps, hps, rfl⟩ := compile_group_eq_ok_iff.mp h
    have each := allMatch_iff_holds r children ps hps
    show _ ↔ (Criterion.all children).Holds t r
    rw [Criterion.holds_all_iff, ← each]
    split
    · -- without parts there is nothing to match on either side
      rename_i hnil
      subst hnil
      cases hps
      rfl
    · rfl

/-- Criteria that compile all match exactly the records of which they all hold. -/
theorem allMatch_iff_holds {t : EntityType} (r : Record) :
    ∀ (children : List Criterion) (ps : List Predicate), compileAll t children = .ok ps →
      (allMatch ps r = true ↔ ∀ child ∈ children, child.Holds t r)
  | [], ps, h => by
    cases h
    constructor
    · intro _ child hmem
      cases hmem
    · intro _
      rfl
  | child :: rest, ps, h => by
    obtain ⟨first, hfirst, h⟩ := bind_eq_ok_iff.mp h
    obtain ⟨others, hothers, h⟩ := bind_eq_ok_iff.mp h
    cases h
    rw [allMatch, Bool.and_eq_true, matchesRecord_iff_holds r child first hfirst,
      allMatch_iff_holds r rest others hothers, List.forall_mem_cons]

end

end Predicate

/-! ## Queries -/

namespace Store

/-- A query is refused for its type or for its criterion, whatever the store holds. -/
theorem query_eq_error_iff {s : Store} {typeName : String} {c : Option Criterion} {cause : Error} :
    s.query typeName c = .error cause ↔
      s.schema.resolve typeName = .error cause ∨
        ∃ t, s.schema.resolve typeName = .ok t ∧ Predicate.ofCriterion? t c = .error cause := by
  rw [query, bind_eq_error_iff]
  refine or_congr_right (exists_congr fun t => and_congr_right fun _ => ?_)
  rw [bind_eq_error_iff]
  constructor
  · rintro (h | ⟨_, _, h⟩)
    · exact h
    · -- the filter itself refuses nothing
      cases h
  · exact .inl

section Filter

open scoped Classical

/-- A query with a criterion is the query without one, cut down to the records of which the
criterion holds; the criterion has to compile. -/
theorem query_eq_filter (s : Store) (typeName : String) (c : Criterion) :
    s.query typeName (some c) = do
      let t ← s.schema.resolve typeName
      let _ ← Predicate.ofCriterion? t (some c)
      let records ← s.query typeName none
      return records.filter fun r => decide (c.Holds t r) := by
  cases ht : s.schema.resolve typeName with
  | error cause =>
    rw [query, ht]
    rfl
  | ok t =>
    rw [query_of_resolve ht, query_none_of_resolve ht]
    show _ = Predicate.ofCriterion? t (some c) >>= _
    cases hp : Predicate.ofCriterion? t (some c) with
    | error cause => rfl
    | ok p =>
      have hkeep : ∀ r, p.matchesRecord r = decide (c.Holds t r) := by
        intro r
        rw [Bool.eq_iff_iff, decide_eq_true_iff]
        exact Predicate.matchesRecord_iff_holds r c p hp
      exact congrArg Except.ok (List.filter_congr fun r _ => hkeep r)

/-- Compiling keeps the reading of a criterion, in which a test of what is absent or `null` never
holds.  So a query gives, in their order, the records of the whole listing of which its criterion
holds, and what the store holds has no say in whether and why a query is refused. -/
theorem query_keeps_reading :
    (∀ (t : EntityType) (c : Criterion) (p : Predicate), Predicate.ofCriterion? t (some c) = .ok p →
      ∀ r, p.matchesRecord r = true ↔ c.Holds t r) ∧
    (∀ (t : EntityType) (r : Record) (field : String) (v : Value),
      r.get? field = none ∨ r.get? field = some .null → ¬ (Criterion.test field v).Holds t r) ∧
    (∀ (s : Store) (typeName : String) (c : Criterion),
      s.query typeName (some c) = do
        let t ← s.schema.resolve typeName
        let _ ← Predicate.ofCriterion? t (some c)
        let records ← s.query typeName none
        return records.filter fun r => decide (c.Holds t r)) ∧
    (∀ (s s' : Store) (typeName : String) (c : Option Criterion) (cause : Error),
      s.schema = s'.schema →
      (s.query typeName c = .error cause ↔ s'.query typeName c = .error cause)) := by
  refine ⟨?reading, ?absent, query_eq_filter, ?refusal⟩
  case reading =>
    intro t c p hp r
    exact Predicate.matchesRecord_iff_holds r c p hp
  case absent =>
    intro t r field v h
    exact Criterion.not_holds_test h
  case refusal =>
    intro s s' typeName c cause hs
    rw [query_eq_error_iff, query_eq_error_iff, hs]

end Filter

/-- Tags of a genre with three uses. -/
def genreThrice : Criterion :=
  .all [.test "type" (.text "genre"), .test "count" (.number (.ofWord 3))]

/-- A tag of a genre with three uses. -/
def jazz : Record := ⟨.ofList [("type", .text "genre"), ("count", .number (.ofWord 3))]⟩

theorem jazz_read :
    genreThrice.Holds Catalog.tag jazz ∧
    ¬ (Criterion.test "type" (.text "genre")).Holds Catalog.tag .empty ∧
    ((empty Catalog.builtIn).setPartition "tags" (Partition.empty.insert "jazz" jazz)).query "Tag"
      (some (.test "size" .null)) = .error (.unknownField "size" "Tag") := by
  refine ⟨?holds, ?absent, ?refused⟩
  case holds =>
    have hp : Predicate.ofCriterion? Catalog.tag (some genreThrice) =
        .ok (.all [.textIs "type" "genre", .numberIs "count" (.ofInt 3)]) := by rfl
    exact (query_keeps_reading.1 _ _ _ hp jazz).mp (by decide +kernel)
  case absent => exact query_keeps_reading.2.1 _ _ _ _ (.inl (by rfl))
  case refused =>
    exact (query_keeps_reading.2.2.2 (empty Catalog.builtIn) _ "Tag" _ _ (by rfl)).mp (by rfl)

end Store

end RecordStore
