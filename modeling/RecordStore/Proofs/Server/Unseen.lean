/-
# RecordStore.Proofs.Server.Unseen — requests that later ones cannot tell were made.

A request counts as a write when it carries a call to put or to remove and is answered with a result
(`AnswersWrite`).  The text of the answer decides this: no reply reads both as a result and as an
error (`respond_result_ne_respond_error`), so the answer shows whether a write was performed
(`answersWrite_iff_performed`).

Every other request, however it is answered, is unseen.  Later answers, generated keys included, are
what they would have been without it (`unwritten_is_unseen`).
-/
import RecordStore.Proofs.Server.Run

namespace RecordStore

/-! ## Results and errors -/

/-- The text of an object with two members. -/
theorem Json.chars_object_pair (name other : String) (v w : Json) :
    (Json.object [(name, v), (other, w)]).chars =
      '\x7b' :: (quoted name ++ ':' :: (v.chars ++ ',' ::
        (quoted other ++ ':' :: (w.chars ++ ['\x7d'])))) := by
  simp [chars, tokens, furtherMembers, Token.chars]

namespace Server

/-- The text of a reply tells a result from an error. -/
theorem respond_result_ne_respond_error (id result : Value) (fault : Rpc.CallFault) :
    respond ⟨id, .ok result⟩ ≠ respond ⟨id, .error fault⟩ := by
  intro h
  have hbody : (Rpc.Reply.toJson ⟨id, .ok result⟩).render =
      (Rpc.Reply.toJson ⟨id, .error fault⟩).render := congrArg Http.Response.body h
  have hchars := String.ofList_injective hbody
  rw [Rpc.Reply.toJson, Rpc.Reply.toJson, Json.chars_object_pair, Json.chars_object_pair] at hchars
  -- both texts begin with the id, and the next member has another name
  have hnames : Json.quoted "result" ++ ':' :: (result.json.chars ++ ['\x7d']) =
      Json.quoted "error" ++ ':' :: (fault.toJson.chars ++ ['\x7d']) := by
    simpa using hchars
  have hletter := congrArg (fun text => text[1]?) hnames
  simp [Json.quoted, Json.escaped] at hletter

/-! ## Writes -/

variable {s : Server} {r : Http.Request}

/-- A request is answered with the result of putting or removing. -/
def AnswersWrite (s : Server) (r : Http.Request) : Prop :=
  ∃ user call result, s.Carries r user call ∧ (call.method = "put" ∨ call.method = "remove") ∧
    (s.answer r).1 = respond ⟨call.id, .ok result⟩

/-- Only a write that was performed is answered as one. -/
theorem answersWrite_iff_performed :
    s.AnswersWrite r ↔ ∃ user call result store, s.Carries r user call ∧
      (call.method = "put" ∨ call.method = "remove") ∧
        s.perform user call = .ok (result, store) := by
  constructor
  · rintro ⟨user, call, result, hcarries, hmethod, hanswer⟩
    rw [answer_of_carries hcarries] at hanswer
    cases hperform : s.perform user call with
    | ok found => exact ⟨user, call, found.1, found.2, hcarries, hmethod, hperform⟩
    | error fault =>
      rw [reply_of_perform_error hperform] at hanswer
      exact absurd hanswer.symm (respond_result_ne_respond_error call.id result fault)
  · rintro ⟨user, call, result, store, hcarries, hmethod, hperform⟩
    refine ⟨user, call, result, hcarries, hmethod, ?_⟩
    rw [answer_of_carries hcarries, reply_of_perform_ok hperform]

/-- A request that is no write leaves the server as it is, counter included. -/
theorem answer_of_not_answersWrite (hservices : s.services = Rpc.Service.builtIn)
    (h : ¬ s.AnswersWrite r) : (s.answer r).2 = s := by
  rcases answer_unchanged_or_performed s r with
    hunchanged | ⟨user, call, service, result, store, hcarries, hservice, hcall, hanswer⟩
  · exact hunchanged
  · rw [hservices] at hservice
    have hnowrite : ¬ (call.method = "put" ∨ call.method = "remove") := fun hmethod =>
      h ⟨user, call, result, hcarries, hmethod, congrArg Prod.fst hanswer⟩
    -- a service that writes stands under the name of a write, and its result would be the answer
    have hstore : store = s.store := by
      rcases Rpc.Service.store_of_call hcall with rfl | rfl | hstore
      · exact absurd (by simpa using Rpc.Service.get?_builtIn_eq_some_iff.mp hservice)
          (not_or.mp hnowrite).1
      · exact absurd (by simpa using Rpc.Service.get?_builtIn_eq_some_iff.mp hservice)
          (not_or.mp hnowrite).2
      · exact hstore
    rw [hanswer, hstore]
    rfl

/-- After any run, a request that is not answered as a write takes its own answer and nothing else:
all later answers are as if it had not been made, and the next generated key is not used up. -/
theorem unwritten_is_unseen {config : Config} {files : Files} {startedAt : String} {first : Server}
    (hstart : start config files startedAt = .ok first) (before later : List Http.Request)
    (hr : ¬ (first.run before).AnswersWrite r) :
    first.responses (before ++ r :: later) = first.responses before ++
        ((first.run before).answer r).1 :: (first.run before).responses later ∧
      first.responses (before ++ later) =
        first.responses before ++ (first.run before).responses later ∧
      (first.run (before ++ [r])).store.counter = (first.run before).store.counter := by
  have hservices : (first.run before).services = Rpc.Service.builtIn := by
    obtain ⟨_, _, _, _, _, _, _, rfl⟩ := start_eq_ok_iff.mp hstart
    exact services_run _ before
  have hunchanged : ((first.run before).answer r).2 = first.run before :=
    answer_of_not_answersWrite hservices hr
  refine ⟨?_, responses_append first before later, ?_⟩
  · rw [responses_append, responses, hunchanged]
  · rw [run_append]
    exact congrArg (fun s => s.store.counter) hunchanged

/-- The tag that two callers put, one of them with credentials of another scheme. -/
def tagPosting (credentials : List (String × List UInt8)) : Http.Request :=
  posting credentials "[1,\"rpcsim.features\",\"put\",[\"Tag\",\x7b\"count\":3\x7d]]"

theorem unauthorized_posting_is_unseen :
    let first := ofDefaults "now"
    let rejected := tagPosting [("authorization", octets "Basic YW5uOmE=")]
    start .default (fun _ => none) "now" = .ok first ∧
      ¬ (first.run [tagPosting []]).AnswersWrite rejected ∧
      first.responses ([tagPosting []] ++ rejected :: [tagPosting []]) =
        first.responses [tagPosting []] ++ ((first.run [tagPosting []]).answer rejected).1 ::
          (first.run [tagPosting []]).responses [tagPosting []] ∧
      first.responses ([tagPosting []] ++ [tagPosting []]) =
        first.responses [tagPosting []] ++ (first.run [tagPosting []]).responses [tagPosting []] ∧
      (first.run ([tagPosting []] ++ [rejected])).store.counter =
        (first.run [tagPosting []]).store.counter := by
  intro first rejected
  have hstart : start .default (fun _ => none) "now" = .ok first := start_ofDefaults "now"
  have hunwritten : ¬ (first.run [tagPosting []]).AnswersWrite rejected := by
    rintro ⟨user, call, result, hcarries, -⟩
    have hrejected : (Session.userOf (first.run [tagPosting []]).config.defaultUser
        rejected).toOption = none := by decide +kernel
    rw [hcarries.authorized] at hrejected
    cases hrejected
  exact ⟨hstart, hunwritten, unwritten_is_unseen hstart [tagPosting []] [tagPosting []] hunwritten⟩

end Server

end RecordStore
