/-
# RecordStore.Predicate — criteria compiled for the records of one type.

Compiling a criterion for an entity type checks it against the declared fields once and gives a
`Predicate`, which can then be evaluated on any record.  A key or string field is compared as
text, a number field as a double, and a list field is searched for the tested value or for its
text.

Compilation reports the first fault in the order in which the criterion is written.  An operator
other than the conjunction is refused without a look at its children.  A test of an undeclared
field is refused before its value is looked at, and a value that has no text before it is asked to
be a number.
-/
import RecordStore.Criterion.Basic
import RecordStore.Record
import RecordStore.Schema.Basic
import RecordStore.Text.Blank

namespace RecordStore

/-- A compiled criterion. -/
inductive Predicate where
  | always
  | all (children : List Predicate)
  | textIs (field value : String)
  | numberIs (field : String) (value : Number.Binary64)
  | holds (field : String) (value : Value) (text : String)

namespace Predicate

/-! ## Evaluation -/

/-- Whether an item of a list is the value that is searched for, or a string that is its text. -/
def itemMatches (value : Value) (text : String) (item : Json) : Bool :=
  item.same value.json ||
    match item with
    | .text s => s == text
    | _ => false

mutual

/-- Whether a predicate matches a record. -/
def matchesRecord : Predicate → Record → Bool
  | .always, _ => true
  | .all children, r => allMatch children r
  | .textIs field value, r =>
    match (r.get? field).map Value.json with
    | some (.text s) => s == value
    | _ => false
  | .numberIs field value, r =>
    match (r.get? field).map Value.json with
    | some (.number n) => n.toBinary64.equal value
    | _ => false
  | .holds field value text, r =>
    match (r.get? field).map Value.json with
    | some (.array items) => items.any (itemMatches value text)
    | _ => false

/-- Whether every predicate of a list matches a record. -/
def allMatch : List Predicate → Record → Bool
  | [], _ => true
  | child :: rest, r => matchesRecord child r && allMatch rest r

end

/-! ## Compilation -/

/-- The text of a tested value.  Only strings, numbers and truth values have one. -/
def testText (field : String) (value : Value) : Except Error String :=
  match value.json with
  | .text s => .ok s
  | .number n => .ok n.text
  | .bool b => .ok (if b then "true" else "false")
  | other => .error (.unsupportedCriterion (.untestable field other.shape))

/-- The double that a tested value denotes: a number by itself, any other value by its text. -/
def testNumber? (value : Value) (text : String) : Option Number.Binary64 :=
  match value.json with
  | .number n => some n.toBinary64
  | _ => Number.binary64? (Text.trim text.toList)

/-- The predicate of a test on a field of a kind. -/
def ofTest (field : String) (kind : FieldKind) (value : Value) : Except Error Predicate := do
  let text ← testText field value
  match kind with
  | .key | .string => .ok (.textIs field text)
  | .number =>
    match testNumber? value text with
    | some number => .ok (.numberIs field number)
    | none => .error (.unsupportedCriterion (.notNumeric text field))
  | .array => .ok (.holds field value text)

mutual

/-- The predicate of a criterion on the records of a type. -/
def compile (t : EntityType) : Criterion → Except Error Predicate
  | .group kind children =>
    if kind = Criterion.conjunction then
      match children with
      | [] => .ok .always
      | child :: rest => do
        let first ← compile t child
        let others ← compileAll t rest
        return .all (first :: others)
    else .error (.unsupportedCriterion (.foreignOperator kind))
  | .test field value => do
    let kind ← t.kind field
    ofTest field kind value

/-- The predicates of a list of criteria. -/
def compileAll (t : EntityType) : List Criterion → Except Error (List Predicate)
  | [] => .ok []
  | child :: rest => do
    let first ← compile t child
    let others ← compileAll t rest
    return first :: others

end

/-- The predicate of a criterion that may be absent; no criterion admits every record. -/
def ofCriterion? (t : EntityType) : Option Criterion → Except Error Predicate
  | none => .ok .always
  | some c => compile t c

end Predicate

end RecordStore
