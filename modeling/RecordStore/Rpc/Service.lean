/-
# RecordStore.Rpc.Service — the services that calls can name.

Four services answer from the store: `query(entityType, criteria?)`, `put(entityType, data)`,
`remove(entityType, key)` and `whoAmI()`.  They take their parameters by place, read all that they
ask for before they do anything else, and ignore the others.

Others may be registered while a server runs.  Such a service is any function of the user of a call
and of its parameters.  Only a successful `put` or `remove` changes the store.
-/
import RecordStore.Criterion.Basic
import RecordStore.Rpc.Reply
import RecordStore.Session
import RecordStore.Store

namespace RecordStore.Rpc

/-- A service. -/
inductive Service where
  | query | put | remove | whoAmI
  | registered (f : User → List Value → Except CallFault Value)

/-! ## Parameters -/

/-- What stands in the place of something else, as a value. -/
def foundIn (v : Value) : Json.Found :=
  match v.json with
  | .null => .null
  | .bool b => .bool b
  | .number n => .number n
  | .text s => .text s
  | .array _ => .sequence
  | .object _ => .map

/-- The parameter at a place. -/
def param (params : List Value) (place : Nat) (name : String) : Except CallFault Value :=
  match params[place]? with
  | some v => .ok v
  | none => .error (.badParameter (.missing name))

/-- The parameter at a place, which must be a string. -/
def textParam (params : List Value) (place : Nat) (name : String) : Except CallFault String := do
  let v ← param params place name
  match v.json with
  | .text s => return s
  | _ => .error (.badParameter (.notText name (foundIn v)))

/-- The parameter at a place, which must be a criterion unless it is absent or `null`. -/
def criterionParam (params : List Value) (place : Nat) (name : String) :
    Except CallFault (Option Criterion) :=
  match params[place]? with
  | none => .ok none
  | some v =>
    if v.isNull then .ok none
    else match Criterion.ofValue? v with
      | some c => .ok (some c)
      | none => .error (.badParameter (.notCriterion name))

/-- A refusal of the store as the fault of a call. -/
def asked {α : Type} (r : Except Error α) : Except CallFault α := r.mapError .refused

/-! ## The data services -/

/-- The records of a type that a criterion admits. -/
def callQuery (s : Store) (params : List Value) : Except CallFault Value := do
  let typeName ← textParam params 0 "entityType"
  let c ← criterionParam params 1 "criteria"
  let records ← asked (s.query typeName c)
  return .array (records.map Record.toValue)

/-- Stores an object as an entity of a type and gives the object with its key. -/
def callPut (s : Store) (params : List Value) : Except CallFault (Value × Store) := do
  let typeName ← textParam params 0 "entityType"
  let v ← param params 1 "data"
  let data ← asked (Record.ofValue v)
  let e ← asked (Entity.ofTypeNamed s.schema typeName data)
  let saved ← asked (s.put e)
  return (saved.entity.data.toValue, saved.store)

/-- Removes the record of a type under a key. -/
def callRemove (s : Store) (params : List Value) : Except CallFault (Value × Store) := do
  let typeName ← textParam params 0 "entityType"
  let key ← param params 1 "key"
  let t ← asked (s.schema.resolve typeName)
  let s ← asked (s.removeEntity (.ofType t (Record.empty.insert t.keyField key)))
  return (.bool true, s)

/-- The state of the first visitor with an email address, if it is recorded. -/
def visitorStatus? (s : Store) (email : String) : Option Status :=
  match s.query "User" (some (.test "email" (.text email))) with
  | .ok (visitor :: _) =>
    match (visitor.get? "status").map Value.json with
    | some (.number (.integer n _)) => Status.ofNumber? n
    | _ => none
  | _ => none

/-- The user of the call and the state of the account. -/
def callWhoAmI (s : Store) (user : User) : Value :=
  let status := (visitorStatus? s user.id).getD user.status
  .object (.ofList [("user", .text user.id), ("status", .number (.ofWord status.number)),
    ("statusName", .text status.name)])

/-! ## Calls -/

/-- The result of a service and the store after it. -/
def Service.call (s : Store) (user : User) (params : List Value) :
    Service → Except CallFault (Value × Store)
  | .query => (callQuery s params).map (·, s)
  | .put => callPut s params
  | .remove => callRemove s params
  | .whoAmI => .ok (callWhoAmI s user, s)
  | .registered f => (f user params).map (·, s)

/-- The services that a server starts with. -/
def Service.builtIn : NameMap Service :=
  .ofList [("query", .query), ("put", .put), ("remove", .remove), ("whoAmI", .whoAmI)]

end RecordStore.Rpc
