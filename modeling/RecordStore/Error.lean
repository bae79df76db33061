/-
# RecordStore.Error — why an operation on a store is refused.

Every refusal has one of five kinds, and within its kind a cause that carries what the message
names. `Error.message` is the only place where refusals are worded.  Services that are registered
while a server runs may fail for reasons of their own; these have the cause `reported`.

Outcomes that may be refusals are taken apart by two means: steps in sequence, one after another
(`bind_eq_ok_iff`, `bind_eq_error_iff`), and two outcomes side by side (`Outcome.Alike`).
-/
import RecordStore.EntityType
import RecordStore.Json.Fault

namespace RecordStore

/-- Why a criterion cannot be tested. -/
inductive CriterionFault where
  | foreignOperator (kind : String)
  | untestable (field : String) (shape : Json.Shape)
  | notNumeric (text field : String)
  | reported (text : String)
deriving DecidableEq

/-- Why a record, or a type of records, is not accepted. -/
inductive RecordFault where
  | notObject (shape : Json.Shape)
  | keyShape (shape : Json.Shape)
  | keyTooLarge (key : String)
  | keyFieldKind (field typeName : String) (kind : FieldKind)
  | keyFieldUndeclared (field typeName : String)
  | malformedSchema (fault : Json.Fault)
  | reported (text : String)
deriving DecidableEq

/-- Why a dataset is not accepted. -/
inductive DatasetFault where
  | unstoredPartition (partition : String)
  | keyTooLarge (key : UInt64)
  | malformed (fault : Json.Fault)
  | reported (text : String)
deriving DecidableEq

/-- A refusal. -/
inductive Error where
  | unknownType (name : String)
  | unknownField (field typeName : String)
  | unsupportedCriterion (fault : CriterionFault)
  | invalidRecord (fault : RecordFault)
  | invalidDataset (fault : DatasetFault)
deriving DecidableEq

/-- The wording of a criterion's fault. -/
def CriterionFault.message : CriterionFault → String
  | .foreignOperator kind => "unrecognized operator '" ++ kind ++ "'"
  | .untestable field shape => "cannot test field '" ++ field ++ "' against " ++ shape.name
  | .notNumeric text field =>
    "value '" ++ text ++ "' for number field '" ++ field ++ "' is not a number"
  | .reported text => text

/-- The wording of a record's fault. -/
def RecordFault.message : RecordFault → String
  | .notObject shape => "record must be an object, got " ++ shape.name
  | .keyShape shape => "key must be a string or number, got " ++ shape.name
  | .keyTooLarge key => "key " ++ key ++ " leaves no room for generated keys"
  | .keyFieldKind field typeName kind =>
    "key field '" ++ field ++ "' of " ++ typeName ++ " must be of kind Key, not " ++ kind.name
  | .keyFieldUndeclared field typeName =>
    "key field '" ++ field ++ "' of " ++ typeName ++ " is not declared"
  | .malformedSchema fault => "malformed schema: " ++ fault.detail
  | .reported text => text

/-- The wording of a dataset's fault. -/
def DatasetFault.message : DatasetFault → String
  | .unstoredPartition partition => "no entity type is stored in partition '" ++ partition ++ "'"
  | .keyTooLarge key =>
    "key " ++ Number.Decimal.text key.toNat ++ " leaves no room for generated keys"
  | .malformed fault => "malformed dataset: " ++ fault.detail
  | .reported text => text

/-- The wording of a refusal. -/
def Error.message : Error → String
  | .unknownType name => "no mapped entity type for " ++ name
  | .unknownField field typeName =>
    "unknown field '" ++ field ++ "' for entity type " ++ typeName
  | .unsupportedCriterion fault => "unsupported criterion: " ++ fault.message
  | .invalidRecord fault => "invalid record: " ++ fault.message
  | .invalidDataset fault => "invalid dataset: " ++ fault.message

/-! ## Steps in sequence -/

/-- A step that is not refused succeeds. -/
theorem exists_eq_ok_iff {ε α : Type} {x : Except ε α} :
    (∃ a, x = .ok a) ↔ ∀ cause, ¬ x = .error cause := by
  cases x with
  | error cause => simp
  | ok a => simp

/-- Two steps in sequence succeed when the first gives what the second succeeds on. -/
theorem bind_eq_ok_iff {ε α β : Type} {x : Except ε α} {f : α → Except ε β} {b : β} :
    x >>= f = .ok b ↔ ∃ a, x = .ok a ∧ f a = .ok b := by
  cases x with
  | error cause =>
    constructor
    · intro h
      cases h
    · rintro ⟨a, ha, _⟩
      cases ha
  | ok a =>
    constructor
    · intro h
      exact ⟨a, rfl, h⟩
    · rintro ⟨_, ⟨⟩, h⟩
      exact h

/-- Two steps in sequence are refused by the first, or by the second on what the first gives. -/
theorem bind_eq_error_iff {ε α β : Type} {x : Except ε α} {f : α → Except ε β} {cause : ε} :
    x >>= f = .error cause ↔ x = .error cause ∨ ∃ a, x = .ok a ∧ f a = .error cause := by
  cases x with
  | error other =>
    constructor
    · intro h
      cases h
      exact .inl rfl
    · rintro (h | ⟨a, ha, _⟩)
      · cases h
        rfl
      · cases ha
  | ok a =>
    constructor
    · intro h
      exact .inr ⟨a, rfl, h⟩
    · rintro (h | ⟨_, ⟨⟩, h⟩)
      · cases h
      · exact h

/-- A step whose refusal is reported as something else succeeds as it did. -/
theorem mapError_eq_ok_iff {ε ε' α : Type} {x : Except ε α} {f : ε → ε'} {a : α} :
    x.mapError f = .ok a ↔ x = .ok a := by
  cases x with
  | error cause =>
    constructor
    · rintro ⟨⟩
    · rintro ⟨⟩
  | ok b =>
    constructor
    · rintro ⟨⟩
      rfl
    · rintro ⟨⟩
      rfl

/-! ## Two outcomes side by side -/

/-- Two outcomes are refusals for the same cause, or results that are related. -/
inductive Outcome.Alike {ε α β : Type} (R : α → β → Prop) : Except ε α → Except ε β → Prop where
  | refused (cause : ε) : Alike R (.error cause) (.error cause)
  | given {a : α} {b : β} (h : R a b) : Alike R (.ok a) (.ok b)

namespace Outcome.Alike

variable {ε α α' β β' : Type} {R : α → α' → Prop} {S : β → β' → Prop}

theorem refl {R : α → α → Prop} (hR : ∀ a, R a a) (x : Except ε α) : Alike R x x := by
  cases x with
  | error cause => exact .refused cause
  | ok a => exact .given (hR a)

theorem of_eq {x y : Except ε α} (h : x = y) : Alike Eq x y := h ▸ refl Eq.refl x

theorem eq_error_or_eq_ok {x : Except ε α} {x' : Except ε α'} (h : Alike R x x') :
    (∃ cause, x = .error cause ∧ x' = .error cause) ∨
      ∃ a a', x = .ok a ∧ x' = .ok a' ∧ R a a' := by
  cases h with
  | refused cause => exact .inl ⟨cause, rfl, rfl⟩
  | given hr => exact .inr ⟨_, _, rfl, rfl, hr⟩

theorem bind {x : Except ε α} {x' : Except ε α'} {f : α → Except ε β} {f' : α' → Except ε β'}
    (h : Alike R x x') (hf : ∀ a a', R a a' → Alike S (f a) (f' a')) :
    Alike S (x >>= f) (x' >>= f') := by
  cases h with
  | refused cause => exact .refused cause
  | given hr => exact hf _ _ hr

theorem map {x : Except ε α} {x' : Except ε α'} {f : α → β} {f' : α' → β'} (h : Alike R x x')
    (hf : ∀ a a', R a a' → S (f a) (f' a')) : Alike S (x.map f) (x'.map f') := by
  cases h with
  | refused cause => exact .refused cause
  | given hr => exact .given (hf _ _ hr)

end Outcome.Alike

end RecordStore
