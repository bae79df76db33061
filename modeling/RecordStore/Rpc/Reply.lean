/-
# RecordStore.Rpc.Reply — what a call is answered with.

A reply carries the id of its call and either a result or an error.  An error says where it comes
from, 1 for the server and 2 for the service that was called, and has a code and a message.  A
request that holds no call is answered under the id `null`.
-/
import RecordStore.Criterion.Basic
import RecordStore.Error
import RecordStore.Json.Token
import RecordStore.Rpc.Request

namespace RecordStore.Rpc

/-- Why a parameter does not fit. -/
inductive ParameterFault where
  | missing (name : String)
  | notText (name : String) (found : Json.Found)
  | notCriterion (name : String)

/-- Why a call has no result. -/
inductive CallFault where
  | badRequest (fault : BodyFault)
  | unknownService (name : String)
  | unknownMethod (name : String)
  | badParameter (fault : ParameterFault)
  | refused (error : Error)

/-- The wording of a parameter's fault. -/
def ParameterFault.message : ParameterFault → String
  | .missing name => "missing parameter '" ++ name ++ "'"
  | .notText name found =>
    "parameter '" ++ name ++ "': " ++ (Json.Fault.wrongType found .text).detail
  | .notCriterion name => "parameter '" ++ name ++ "': " ++ Criterion.noCriterionMessage

namespace CallFault

/-- The wording of a fault. -/
def message : CallFault → String
  | badRequest fault => fault.message
  | unknownService name => "Service not found: " ++ name
  | unknownMethod name => "Method not found: " ++ name
  | badParameter fault => "Parameter mismatch: " ++ fault.message
  | refused error => error.message

/-- Where a fault comes from: the server or the service. -/
def origin : CallFault → UInt64
  | refused _ => 2
  | _ => 1

/-- The code of a refusal. -/
def codeOfError : Error → UInt64
  | .unknownType _ => 1
  | .unknownField _ _ => 2
  | .unsupportedCriterion _ => 3
  | .invalidRecord _ => 4
  | .invalidDataset _ => 5

/-- The code of a fault, among those of its origin. -/
def code : CallFault → UInt64
  | badRequest _ => 1
  | unknownService _ => 2
  | unknownMethod _ => 4
  | badParameter _ => 5
  | refused error => codeOfError error

/-- A fault as a JSON document. -/
def toJson (f : CallFault) : Json :=
  .object [("origin", .number (.ofWord f.origin)), ("code", .number (.ofWord f.code)),
    ("message", .text f.message)]

end CallFault

/-- The reply to a call. -/
structure Reply where
  id : Value
  outcome : Except CallFault Value

/-- A reply as a JSON document. -/
def Reply.toJson (r : Reply) : Json :=
  match r.outcome with
  | .ok result => .object [("id", r.id.json), ("result", result.json)]
  | .error fault => .object [("id", r.id.json), ("error", fault.toJson)]

end RecordStore.Rpc
