/-
# RecordStore.Server — the server.

A server answers calls on one path from its store, and has two fixed pages: a greeting on `/` and
its health on `/health`.  The path of calls may be one of theirs; then only calls are posted to
it.  It may also be a pattern of paths, which then leaves out those of the pages.

Of a request the path is looked at first, then the method, then the credentials, and the body
last. `OPTIONS` is answered everywhere, and `HEAD` like `GET` without the body.  A call is always
answered with status 200 once its user is known, whatever becomes of it.
-/
import RecordStore.Catalog
import RecordStore.Config
import RecordStore.Rpc.Service

namespace RecordStore

/-- A running server: its configuration, store and services, and the time of its start. -/
structure Server where
  config : Config
  store : Store
  services : NameMap Rpc.Service
  startedAt : String

namespace Server

/-! ## Starting -/

/-- Why a server does not start. -/
inductive StartFault where
  | catalog (fault : Catalog.Fault)
  | seed (error : Error)
  | callPath (path : String)

/-- The wording of a fault. -/
def StartFault.message : StartFault → String
  | .catalog fault => fault.message
  | .seed error => error.message
  | .callPath path => "malformed path of calls '" ++ path ++ "'"

/-- The server of a configuration, with the files that it can read. -/
def start (config : Config) (files : Files) (startedAt : String) :
    Except StartFault Server := do
  let schema ← (Catalog.schema files config.schemaPath).mapError .catalog
  let seed ← (Catalog.seed files config.seedPath).mapError .catalog
  let store ← (Store.withDataset schema seed).mapError .seed
  match config.callPattern? with
  | some _ => return ⟨config, store, Rpc.Service.builtIn, startedAt⟩
  | none => throw (.callPath config.rpcPath)

/-- The server with a service under a name, in the place of any earlier one. -/
def register (s : Server) (name : String) (service : Rpc.Service) : Server :=
  { s with services := s.services.insert name service }

/-! ## Calls -/

/-- The service that a call names. -/
def service (s : Server) (call : Rpc.Request) : Except Rpc.CallFault Rpc.Service :=
  if call.service ≠ s.config.serviceName then .error (.unknownService call.service)
  else match s.services.get? call.method with
    | some service => .ok service
    | none => .error (.unknownMethod call.method)

/-- The result of a call of a user, and the store after it. -/
def perform (s : Server) (user : User) (call : Rpc.Request) :
    Except Rpc.CallFault (Value × Store) := do
  let service ← s.service call
  service.call s.store user call.params

/-- The reply to a call of a user, and the server after it. -/
def reply (s : Server) (user : User) (call : Rpc.Request) : Rpc.Reply × Server :=
  match s.perform user call with
  | .ok (result, store) => (⟨call.id, .ok result⟩, { s with store := store })
  | .error fault => (⟨call.id, .error fault⟩, s)

/-- The response that carries a reply. -/
def respond (reply : Rpc.Reply) : Http.Response := .json reply.toJson.render

/-- The answer to a request on the path of calls, and the server after it. -/
def answerCall (s : Server) (r : Http.Request) : Http.Response × Server :=
  match Session.userOf s.config.defaultUser r with
  | .error rejection => (.plain 401 rejection.message, s)
  | .ok user =>
    match Rpc.Request.ofHttp r with
    | .error fault => (respond ⟨.null, .error (.badRequest fault)⟩, s)
    | .ok call =>
      let (reply, s) := s.reply user call
      (respond reply, s)

/-! ## Pages -/

/-- The version that the health page names. -/
def version : String := "0.1.0"

/-- The health page. -/
def health (s : Server) : Json :=
  .object [("status", .text "ok"), ("version", .text version), ("startedAt", .text s.startedAt)]

/-- The page of a path, if it is one of the fixed pages. -/
def page? (s : Server) (path : String) : Option Http.Response :=
  if path = "/" then some (.plain 200 "RPC Datastore Simulator")
  else if path = "/health" then some (.json s.health.render)
  else none

/-- Whether a path is one of calls: the path of a page only if the configuration names it. -/
def takesCalls (s : Server) (path : String) : Bool :=
  if (s.page? path).isSome then path = s.config.rpcPath
  else s.config.callPattern?.any (·.admits path)

/-- A path of calls without braces is the only one. -/
theorem takesCalls_iff_eq {s : Server} {path : String}
    (plain : ∀ c ∈ s.config.rpcPath.toList, c ≠ '\x7b' ∧ c ≠ '\x7d')
    (read : s.config.callPattern?.isSome) :
    s.takesCalls path = true ↔ path = s.config.rpcPath := by
  unfold takesCalls
  split
  · exact decide_eq_true_iff
  · obtain ⟨p, hp⟩ := Option.isSome_iff_exists.mp read
    rw [hp, Option.any_some]
    exact Http.PathPattern.admits_iff_eq plain hp

/-- The answer to a request that is no call. -/
def answerPage (s : Server) (r : Http.Request) : Http.Response :=
  match s.page? r.path, r.method with
  | some page, .get => page
  | some page, .head => page.withoutBody
  | some _, _ => .bare 405
  | none, _ => if s.takesCalls r.path then .bare 405 else .bare 404

/-- The answer to a request, and the server after it. -/
def answer (s : Server) (r : Http.Request) : Http.Response × Server :=
  if r.method = .options then (.bare 200, s)
  else if s.takesCalls r.path ∧ r.method = .post then s.answerCall r
  else (s.answerPage r, s)

end Server

end RecordStore
