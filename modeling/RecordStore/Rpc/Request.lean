/-
# RecordStore.Rpc.Request — calls as they arrive.

The body of a call is a JSON object with the strings `service` and `method`, and if need be an
`id` of any kind and the array `params`; or an array of these in the order id, service, method,
parameters. Other members are skipped.  The content type is looked at before the size of the body,
and the size before what it says.
-/
import RecordStore.Http.MediaType
import RecordStore.Http.Message
import RecordStore.Json.Reader
import RecordStore.Text.Utf8

namespace RecordStore.Rpc

open Json (Tree Fault Ending)

/-- A call: the id that its reply is to carry, the method of a service, and parameters in order. -/
structure Request where
  id : Value
  service : String
  method : String
  params : List Value
deriving DecidableEq

/-! ## Reading -/

/-- The members of a call that have been read. -/
structure Draft where
  id : Option Value
  service : Option String
  method : Option String
  params : Option (List Value)

/-- The draft without members. -/
def Draft.blank : Draft := ⟨none, none, none, none⟩

/-- The id of a call, which stands inside one container. -/
def readId (tree : Tree) : Except Fault Value := Json.readValue (Json.nestingLimit - 1) tree

/-- The parameters of a call, each inside two containers. -/
def readParams (tree : Tree) : Except Fault (List Value) :=
  Json.readSequence (Json.readValue (Json.nestingLimit - 2)) tree

/-- The draft after one more member. -/
def Draft.take (d : Draft) (name : String) (tree : Tree) : Except Fault Draft := do
  if name = "id" then
    let value ← Json.once name d.id (readId tree)
    return { d with id := value }
  else if name = "service" then
    let value ← Json.once name d.service (Json.readText tree)
    return { d with service := value }
  else if name = "method" then
    let value ← Json.once name d.method (Json.readText tree)
    return { d with method := value }
  else if name = "params" then
    let value ← Json.once name d.params (readParams tree)
    return { d with params := value }
  else
    Json.skip tree
    return d

/-- The call that a draft describes. -/
def Draft.complete (d : Draft) : Except Fault Request := do
  let service ← Json.required "service" d.service
  let method ← Json.required "method" d.method
  return ⟨d.id.getD .null, service, method, d.params.getD []⟩

/-- An item that the array form of a call must have. -/
def needed (place : Nat) : Option Tree → Except Fault Tree
  | some tree => .ok tree
  | none => .error (.wrongLength place "Request" 4)

/-- A call in the form of an array. -/
def readItems (items : List Tree) (ending : Ending) : Except Fault Request := do
  let id ← match ← Json.itemAt? items ending 0 with
    | some tree => readId tree
    | none => pure .null
  let service ← Json.readText (← needed 1 (← Json.itemAt? items ending 1))
  let method ← Json.readText (← needed 2 (← Json.itemAt? items ending 2))
  let params ← match ← Json.itemAt? items ending 3 with
    | some tree => readParams tree
    | none => pure []
  Json.readItemsEnd items ending 4
  return ⟨id, service, method, params⟩

/-- A call. -/
def read : Tree → Except Fault Request
  | .object members ending => do
    let draft ← Json.takeMembers Draft.take .blank members
    Json.readEnding ending
    draft.complete
  | .array items ending => readItems items ending
  | tree => .error (Json.mismatch (.structured "Request") tree)

/-- The call that a text is, or the first problem of the text. -/
def ofDocument (d : Json.Document) : Except Fault Request := do
  let request ← read d.tree
  Json.readEnd d
  return request

/-! ## Bodies -/

/-- Why a request holds no call. -/
inductive BodyFault where
  | otherContent
  | tooLong
  | unreadable
  | wrongShape
deriving DecidableEq

/-- The wording of a fault. -/
def BodyFault.message : BodyFault → String
  | .otherContent => "Expected request with `Content-Type: application/json`"
  | .tooLong => "Failed to buffer the request body: length limit exceeded"
  | .unreadable => "Failed to parse the request body as JSON"
  | .wrongShape => "Failed to deserialize the JSON body into the target type"

/-- A problem of a body's text, as the fault of the request. -/
def BodyFault.ofFault : Fault → BodyFault
  | .unreadable => .unreadable
  | _ => .wrongShape

/-- The number of octets that a body may have. -/
def bodyLimit : Nat := 2 * 1024 * 1024

/-- The call that a request holds. -/
def Request.ofHttp (r : Http.Request) : Except BodyFault Request :=
  if !(r.headerText? "content-type").any Http.MediaType.isJson then .error .otherContent
  else if bodyLimit < r.body.length then .error .tooLong
  else (ofDocument (.ofSymbols (Text.Utf8.decode r.body))).mapError .ofFault

end RecordStore.Rpc
