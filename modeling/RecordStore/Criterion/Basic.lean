/-
# RecordStore.Criterion.Basic — criteria as callers give them.

A criterion is a group of criteria under an operator, or the test of one field against a value.
As a JSON document a group is `{"kind", "children"}` and a test is `{"field", "value"}`, and
`ofJson?` reads exactly these: a document that can be read as a group is one, whatever else it
says, and otherwise it may be a test.  Other members are ignored.  A member that a form needs and
that stands there twice spoils that form.
-/
import RecordStore.Json.Reader
import RecordStore.Value

namespace RecordStore

/-- A criterion. -/
inductive Criterion where
  | group (kind : String) (children : List Criterion)
  | test (field : String) (value : Value)

namespace Criterion

/-- The name of the only operator that can be tested. -/
def conjunction : String := "and"

/-- The conjunction of criteria. -/
def all (children : List Criterion) : Criterion := .group conjunction children

/-! ## Writing -/

mutual

/-- A criterion as a JSON document. -/
def toJson : Criterion → Json
  | .group kind children =>
    .object [("kind", .text kind), ("children", .array (childrenToJson children))]
  | .test field value => .object [("field", .text field), ("value", value.json)]

/-- A list of criteria as JSON documents. -/
def childrenToJson : List Criterion → List Json
  | [] => []
  | child :: rest => toJson child :: childrenToJson rest

end

/-! ## Reading -/

/-- The values of the members of a name. -/
def membersNamed (name : String) (members : List (String × Json)) : List Json :=
  (members.filter fun m => m.1 = name).map Prod.snd

/-- The group that an object is, given what each of its `children` members reads as. -/
def groupOf? (members : List (String × Json)) (children : List (Option (List Criterion))) :
    Option Criterion :=
  match membersNamed "kind" members, children with
  | [.text kind], [] => some (.group kind [])
  | [.text kind], [some children] => some (.group kind children)
  | _, _ => none

/-- The test that an object is. -/
def testOf? (members : List (String × Json)) : Option Criterion :=
  match membersNamed "field" members, membersNamed "value" members with
  | [.text field], [value] => some (.test field (.ofJson value))
  | _, _ => none

mutual

/-- The criterion that a document is. -/
def ofJson? : Json → Option Criterion
  | .object members => (groupOf? members (childLists members)).or (testOf? members)
  | _ => none

/-- What each `children` member of an object reads as: a list of criteria, or nothing. -/
def childLists : List (String × Json) → List (Option (List Criterion))
  | [] => []
  | (name, value) :: rest =>
    if name = "children" then childList? value :: childLists rest else childLists rest

/-- The list of criteria that a document is. -/
def childList? : Json → Option (List Criterion)
  | .array items => allOfJson? items
  | _ => none

/-- The criteria that a list of documents is. -/
def allOfJson? : List Json → Option (List Criterion)
  | [] => some []
  | item :: rest =>
    match ofJson? item, allOfJson? rest with
    | some child, some children => some (child :: children)
    | _, _ => none

end

/-- The criterion that a value is. -/
def ofValue? (v : Value) : Option Criterion := ofJson? v.json

/-- Why a text is not a criterion. -/
inductive TextFault where
  | unreadable
  | noCriterion
deriving DecidableEq

/-- The wording of the fault of a document that is not a criterion. -/
def noCriterionMessage : String :=
  "data did not match any variant of untagged enum Criterion"

/-- The wording of a fault. -/
def TextFault.message : TextFault → String
  | .unreadable => Json.Fault.unreadable.detail
  | .noCriterion => noCriterionMessage

/-- The criterion that a string writes.  What follows the criterion is looked at last. -/
def ofText (text : String) : Except TextFault Criterion :=
  let d := Json.Document.ofString text
  match Json.ofTree? Json.nestingLimit d.tree with
  | none => .error .unreadable
  | some v =>
    match ofJson? v with
    | none => .error .noCriterion
    | some c => if d.trailing then .error .unreadable else .ok c

end Criterion

end RecordStore
