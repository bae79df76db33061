/-
# RecordStore.Proofs.Criterion.FirstFault — which criteria compile, and why others do not.

A criterion is a tree, and a type looks at its nodes one at a time: each node is sound or has exactly
one fault, whatever its children are.  The compiler goes through the nodes in the order in which they
are written, each before its children.  It accepts a criterion all of whose nodes are sound, and
otherwise reports the first one that is not (`compile_reports_first_fault`).

That a node is `Sound` or `Faulty` is said by the declared fields and by what the tested value stands
for, as in the reading of a criterion, and without the compiler.
-/
import RecordStore.Proofs.Criterion.Reading

namespace RecordStore

namespace Criterion

/-! ## The nodes -/

mutual

/-- The nodes of a criterion as they are written, from left to right and each before its children. -/
def nodes : Criterion → List Criterion
  | .group kind children => .group kind children :: nodesOf children
  | .test field v => [.test field v]

/-- The nodes of a list of criteria, one criterion after another. -/
def nodesOf : List Criterion → List Criterion
  | [] => []
  | child :: rest => nodes child ++ nodesOf rest

end

/-- A node that a type admits: a conjunction, or the test of a declared field against a value that has
a text and, if the field holds numbers, denotes one. -/
inductive Sound (t : EntityType) : Criterion → Prop where
  | group (children : List Criterion) : Sound t (.group conjunction children)
  | test {field text : String} {kind : FieldKind} {v : Value}
      (declared : t.fields.get? field = some kind) (htext : v.HasText text)
      (hnumber : kind = .number → ∃ x, v.Denotes x) : Sound t (.test field v)

/-- A node that a type refuses, and why. -/
inductive Faulty (t : EntityType) : Criterion → Error → Prop where
  | foreign {kind : String} (children : List Criterion) (h : kind ≠ conjunction) :
      Faulty t (.group kind children) (.unsupportedCriterion (.foreignOperator kind))
  | undeclared {field : String} (v : Value) (h : t.fields.get? field = none) :
      Faulty t (.test field v) (.unknownField field t.name)
  | untestable {field : String} {kind : FieldKind} {v : Value}
      (declared : t.fields.get? field = some kind) (h : v.shape ∈ [.null, .array, .object]) :
      Faulty t (.test field v) (.unsupportedCriterion (.untestable field v.shape))
  | notNumeric {field text : String} {v : Value} (declared : t.fields.get? field = some .number)
      (htext : v.HasText text) (h : ∀ x, ¬ v.Denotes x) :
      Faulty t (.test field v) (.unsupportedCriterion (.notNumeric text field))

/-- The first node of a list that is not sound has this fault. -/
inductive FirstFault (t : EntityType) : List Criterion → Error → Prop where
  | here {node : Criterion} {cause : Error} (h : node.Faulty t cause) (rest : List Criterion) :
      FirstFault t (node :: rest) cause
  | later {node : Criterion} {rest : List Criterion} {cause : Error} (h : node.Sound t)
      (hrest : FirstFault t rest cause) : FirstFault t (node :: rest) cause

/-! ## Sound nodes and faulty ones -/

section Nodes

variable {t : EntityType} {node : Criterion} {l l' : List Criterion} {cause : Error}

theorem exists_hasText_iff {v : Value} :
    (∃ text, v.HasText text) ↔ v.shape ∉ [Json.Shape.null, .array, .object] := by
  obtain ⟨j, hj⟩ := v
  constructor
  · rintro ⟨text, h⟩
    cases h <;> simp [Value.shape, Json.shape]
  · intro h
    cases j with
    | text s => exact ⟨_, .text s⟩
    | number n => exact ⟨_, .number n⟩
    | bool b =>
      cases b with
      | true => exact ⟨_, .yes⟩
      | false => exact ⟨_, .no⟩
    | null => simp [Value.shape, Json.shape] at h
    | array items => simp [Value.shape, Json.shape] at h
    | object members => simp [Value.shape, Json.shape] at h

/-- A node is sound or has a fault, and not both. -/
theorem sound_iff_not_faulty : node.Sound t ↔ ∀ cause, ¬ node.Faulty t cause := by
  constructor
  · intro hsound cause hfaulty
    cases hfaulty with
    | foreign children h =>
      cases hsound
      exact h rfl
    | undeclared v h =>
      cases hsound with
      | test declared htext hnumber => cases declared.symm.trans h
    | untestable declared h =>
      cases hsound with
      | test _ htext hnumber => exact exists_hasText_iff.mp ⟨_, htext⟩ h
    | notNumeric declared _ h =>
      cases hsound with
      | test declared' htext hnumber =>
        obtain ⟨x, hx⟩ := hnumber (Option.some.inj (declared'.symm.trans declared))
        exact h x hx
  · intro h
    cases node with
    | group kind children =>
      by_cases hkind : kind = conjunction
      · rw [hkind]
        exact .group children
      · exact absurd (.foreign children hkind) (h _)
    | test field v =>
      cases declared : t.fields.get? field with
      | none => exact absurd (.undeclared v declared) (h _)
      | some kind =>
        obtain ⟨text, htext⟩ : ∃ text, v.HasText text :=
          exists_hasText_iff.mpr fun hshape => h _ (.untestable declared hshape)
        refine .test declared htext fun hkind => ?_
        rw [hkind] at declared
        apply Classical.byContradiction
        intro hnone
        exact h _ (.notNumeric declared htext (not_exists.mp hnone))

theorem firstFault_cons_iff :
    FirstFault t (node :: l) cause ↔ node.Faulty t cause ∨ node.Sound t ∧ FirstFault t l cause := by
  constructor
  · intro h
    cases h with
    | here h => exact .inl h
    | later h hrest => exact .inr ⟨h, hrest⟩
  · rintro (h | ⟨h, hrest⟩)
    · exact .here h l
    · exact .later h hrest

theorem not_firstFault_nil : ¬ FirstFault t [] cause := by
  intro h
  cases h

/-- The second of two lists is looked at if all nodes of the first are sound. -/
theorem firstFault_append_iff :
    FirstFault t (l ++ l') cause ↔
      FirstFault t l cause ∨ (∀ node ∈ l, node.Sound t) ∧ FirstFault t l' cause := by
  induction l with
  | nil => simp [not_firstFault_nil]
  | cons node rest ih =>
    rw [List.cons_append, firstFault_cons_iff, ih, firstFault_cons_iff, List.forall_mem_cons,
      and_or_left, or_assoc, and_assoc]

/-- All nodes of a list are sound exactly if there is no first fault. -/
theorem forall_sound_iff : (∀ node ∈ l, node.Sound t) ↔ ∀ cause, ¬ FirstFault t l cause := by
  induction l with
  | nil => simp [not_firstFault_nil]
  | cons node rest ih =>
    simp only [List.forall_mem_cons, firstFault_cons_iff, not_or, not_and, forall_and, ih,
      ← sound_iff_not_faulty]
    refine and_congr_right fun hsound => ?_
    simp only [hsound, true_implies]

end Nodes

end Criterion

/-! ## Compiling -/

namespace Predicate

open Criterion (FirstFault)

variable {t : EntityType} {cause : Error}

theorem testText_eq_error_iff {field : String} {v : Value} :
    testText field v = .error cause ↔
      v.shape ∈ [Json.Shape.null, .array, .object] ∧
        cause = .unsupportedCriterion (.untestable field v.shape) := by
  obtain ⟨j, hj⟩ := v
  cases j <;> simp [testText, Value.shape, Json.shape, eq_comm]

theorem ofTest_eq_error_iff {field : String} {kind : FieldKind} {v : Value} :
    ofTest field kind v = .error cause ↔
      (v.shape ∈ [Json.Shape.null, .array, .object] ∧
        cause = .unsupportedCriterion (.untestable field v.shape)) ∨
      (kind = .number ∧ ∃ text, v.HasText text ∧ (∀ x, ¬ v.Denotes x) ∧
        cause = .unsupportedCriterion (.notNumeric text field)) := by
  rw [ofTest, bind_eq_error_iff, testText_eq_error_iff]
  simp only [testText_eq_ok_iff]
  refine or_congr_right ?_
  cases kind with
  | key => simp
  | string => simp
  | array => simp
  | number =>
    simp only [true_and]
    refine exists_congr fun text => and_congr_right fun htext => ?_
    simp only [← testNumber?_eq_some_iff htext]
    cases testNumber? v text with
    | none => simp [eq_comm]
    | some x => simp

theorem compile_test_eq_error_iff {field : String} {v : Value} :
    compile t (.test field v) = .error cause ↔ (Criterion.test field v).Faulty t cause := by
  rw [compile, bind_eq_error_iff]
  unfold EntityType.kind
  constructor
  · rintro (h | ⟨kind, hkind, h⟩)
    · cases hdeclared : t.fields.get? field with
      | none =>
        rw [hdeclared] at h
        cases h
        exact .undeclared v hdeclared
      | some kind =>
        rw [hdeclared] at h
        cases h
    · have hdeclared : t.fields.get? field = some kind := by
        cases hfield : t.fields.get? field <;> simp_all
      rcases ofTest_eq_error_iff.mp h with ⟨hshape, rfl⟩ | ⟨rfl, text, htext, hnone, rfl⟩
      · exact .untestable hdeclared hshape
      · exact .notNumeric hdeclared htext hnone
  · intro h
    cases h with
    | undeclared v h => simp [h]
    | untestable declared h =>
      exact .inr ⟨_, by rw [declared], ofTest_eq_error_iff.mpr (.inl ⟨h, rfl⟩)⟩
    | notNumeric declared htext h =>
      exact .inr ⟨_, by rw [declared], ofTest_eq_error_iff.mpr (.inr ⟨rfl, _, htext, h, rfl⟩)⟩

/-- A group is refused for its operator, and otherwise for one of its children. -/
theorem compile_group_eq_error_iff {kind : String} {children : List Criterion} :
    compile t (.group kind children) = .error cause ↔
      (Criterion.group kind children).Faulty t cause ∨
        (Criterion.group kind children).Sound t ∧ compileAll t children = .error cause := by
  rw [compile.eq_def]
  by_cases hk : kind = Criterion.conjunction
  · -- a conjunction is sound by itself, so only its children are left
    subst hk
    have hsound : (Criterion.group Criterion.conjunction children).Sound t := .group children
    have hnone := Criterion.sound_iff_not_faulty.mp hsound cause
    simp only [hnone, hsound, false_or, true_and, if_true]
    cases children with
    | nil => simp [compileAll]
    | cons child rest => simp only [compileAll, bind_eq_error_iff, reduceCtorEq, pure, Except.pure]
  · simp only [hk, if_false]
    constructor
    · intro h
      cases h
      exact .inl (.foreign children hk)
    · rintro (h | ⟨h, _⟩)
      · cases h
        rfl
      · cases h
        exact absurd rfl hk

mutual

/-- A criterion is refused for its first fault. -/
theorem compile_eq_error_iff : ∀ (c : Criterion) (cause : Error),
    compile t c = .error cause ↔ FirstFault t c.nodes cause
  | .test field v, cause => by
    rw [compile_test_eq_error_iff, Criterion.nodes, Criterion.firstFault_cons_iff]
    simp [Criterion.not_firstFault_nil]
  | .group kind children, cause => by
    rw [compile_group_eq_error_iff, Criterion.nodes, Criterion.firstFault_cons_iff,
      compileAll_eq_error_iff children cause]

/-- A list of criteria is refused for its first fault. -/
theorem compileAll_eq_error_iff : ∀ (children : List Criterion) (cause : Error),
    compileAll t children = .error cause ↔ FirstFault t (Criterion.nodesOf children) cause
  | [], cause => by
    rw [compileAll, Criterion.nodesOf]
    simp [Criterion.not_firstFault_nil]
  | child :: rest, cause => by
    -- the others are looked at once the first has compiled, that is if it has no fault
    have hsound : (∀ node ∈ child.nodes, node.Sound t) ↔ ∃ p, compile t child = .ok p := by
      rw [Criterion.forall_sound_iff, exists_eq_ok_iff]
      simp only [compile_eq_error_iff child]
    rw [compileAll, Criterion.nodesOf, Criterion.firstFault_append_iff, hsound, bind_eq_error_iff,
      compile_eq_error_iff child cause, ← compileAll_eq_error_iff rest cause]
    simp only [bind_eq_error_iff, pure, Except.pure, reduceCtorEq, and_false, exists_const, or_false,
      exists_and_right]

end

theorem exists_compile_eq_ok_iff {c : Criterion} :
    (∃ p, compile t c = .ok p) ↔ ∀ node ∈ c.nodes, node.Sound t := by
  rw [exists_eq_ok_iff, Criterion.forall_sound_iff]
  simp only [compile_eq_error_iff]

/-- A criterion compiles for a type exactly if all its nodes are sound, and is otherwise refused for
the first one that is not. -/
theorem compile_reports_first_fault (t : EntityType) (c : Criterion) :
    ((∃ p, ofCriterion? t (some c) = .ok p) ↔ ∀ node ∈ c.nodes, node.Sound t) ∧
      ∀ cause, ofCriterion? t (some c) = .error cause ↔ FirstFault t c.nodes cause :=
  ⟨exists_compile_eq_ok_iff, compile_eq_error_iff c⟩

/-- Of three faults the first is reported, and of an undeclared field only that it is undeclared. -/
example :
    ofCriterion? Catalog.tag (some (.all [.test "count" (.text " 1e3 "),
      .all [.test "size" .null, .test "count" (.bool true)], .group "or" []])) =
    .error (.unknownField "size" "Tag") := by
  rfl

end Predicate

end RecordStore
