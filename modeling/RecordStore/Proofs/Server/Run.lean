/-
# RecordStore.Proofs.Server.Run — runs of requests on one server.

A run is a list of requests, of one client or of many in any order.  Each is answered as one step,
from the store that the earlier ones have left.  Nothing of a server but its store changes in a run
(`run_eq_withStore`).

A request that carries a call to the server's own namespace is answered with the reply to this call
(`answer_of_carries`).  No request changes a server but by such a call whose service gives a result
(`answer_unchanged_or_performed`).
-/
import RecordStore.Server

namespace RecordStore

/-! ## The services of the start -/

namespace Rpc.Service

theorem get?_builtIn_eq_some_iff {name : String} {service : Service} :
    builtIn.get? name = some service ↔
      (name = "query" ∧ service = .query) ∨ (name = "put" ∧ service = .put) ∨
        (name = "remove" ∧ service = .remove) ∨ (name = "whoAmI" ∧ service = .whoAmI) := by
  have hget : builtIn.get? name =
      if name = "query" then some .query else if name = "put" then some .put
      else if name = "remove" then some .remove else if name = "whoAmI" then some .whoAmI
      else none := by
    simp only [builtIn, NameMap.get?_ofList_cons]
    rfl
  rw [hget]
  grind

/-- The store after a call with some outcome, which is the same store when the call has failed. -/
def storeAfter (s : Store) : Except CallFault (Value × Store) → Store
  | .ok (_, s') => s'
  | .error _ => s

theorem storeAfter_map (s : Store) (given : Except CallFault Value) :
    storeAfter s (given.map (·, s)) = s := by
  cases given <;> rfl

/-- Only putting and removing change the store. -/
theorem store_of_call {s s' : Store} {user : User} {params : List Value} {service : Service}
    {result : Value} (h : service.call s user params = .ok (result, s')) :
    service = .put ∨ service = .remove ∨ s' = s := by
  have hstore : s' = storeAfter s (service.call s user params) := by
    rw [h]
    rfl
  cases service with
  | query | registered f => exact .inr (.inr (hstore.trans (storeAfter_map s _)))
  | put => exact .inl rfl
  | remove => exact .inr (.inl rfl)
  | whoAmI => exact .inr (.inr hstore)

end Rpc.Service

namespace Server

variable {s : Server} {r : Http.Request}

/-! ## Posted requests -/

/-- The answer to a call that a request holds, on behalf of a user, and the server after it. -/
def answerAs (s : Server) (user : User) (r : Http.Request) : Http.Response × Server :=
  match Rpc.Request.ofHttp r with
  | .error fault => (respond ⟨.null, .error (.badRequest fault)⟩, s)
  | .ok call => (respond (s.reply user call).1, (s.reply user call).2)

/-- A request posted to the path of calls is rejected, or answered on behalf of its user. -/
theorem answer_of_posted (hposted : r.method = .post) (hpath : s.takesCalls r.path = true) :
    s.answer r = match Session.userOf s.config.defaultUser r with
      | .error rejection => (.plain 401 rejection.message, s)
      | .ok user => s.answerAs user r := by
  have hoptions : ¬ r.method = .options := by simp [hposted]
  rw [answer, if_neg hoptions, if_pos ⟨hpath, hposted⟩]
  rfl

theorem answer_of_not_posted (h : ¬ (s.takesCalls r.path = true ∧ r.method = .post)) :
    s.answer r = (if r.method = .options then .bare 200 else s.answerPage r, s) := by
  rw [answer, if_neg h]
  split <;> rfl

/-! ## Requests that carry calls -/

/-- A request carries a call of a user to the namespace of the server. -/
structure Carries (s : Server) (r : Http.Request) (user : User) (call : Rpc.Request) : Prop where
  posted : r.method = .post
  onPath : s.takesCalls r.path = true
  authorized : Session.userOf s.config.defaultUser r = .ok user
  readable : Rpc.Request.ofHttp r = .ok call
  addressed : call.service = s.config.serviceName

variable {user : User} {call : Rpc.Request}

/-- A request that holds a call is answered with the reply to it. -/
theorem answerAs_of_ofHttp (h : Rpc.Request.ofHttp r = .ok call) :
    s.answerAs user r = (respond (s.reply user call).1, (s.reply user call).2) := by
  rw [answerAs, h]

theorem answer_of_carries (h : s.Carries r user call) :
    s.answer r = (respond (s.reply user call).1, (s.reply user call).2) := by
  rw [answer_of_posted h.posted h.onPath, h.authorized]
  exact answerAs_of_ofHttp h.readable

/-- The server with another store. -/
def withStore (s : Server) (store : Store) : Server := { s with store := store }

theorem reply_of_perform_error {fault : Rpc.CallFault} (h : s.perform user call = .error fault) :
    s.reply user call = (⟨call.id, .error fault⟩, s) := by
  rw [reply, h]

theorem reply_of_perform_ok {result : Value} {store : Store}
    (h : s.perform user call = .ok (result, store)) :
    s.reply user call = (⟨call.id, .ok result⟩, s.withStore store) := by
  rw [reply, h, withStore]

/-- A call to another namespace is refused before any service is looked for. -/
theorem perform_of_service_ne (h : call.service ≠ s.config.serviceName) :
    s.perform user call = .error (.unknownService call.service) := by
  rw [perform, service, if_pos h]
  rfl

/-- A call to the server's namespace is performed by the service of its method. -/
theorem perform_of_service_eq (h : call.service = s.config.serviceName) :
    s.perform user call = match s.services.get? call.method with
      | some service => service.call s.store user call.params
      | none => .error (.unknownMethod call.method) := by
  rw [perform, service, if_neg (not_not_intro h)]
  cases s.services.get? call.method <;> rfl

/-- A registered service performs the calls of its name, in the place of any earlier one, and no
others. -/
theorem perform_register (h : call.service = s.config.serviceName) (name : String)
    (service : Rpc.Service) :
    (s.register name service).perform user call =
      if call.method = name then service.call s.store user call.params
      else s.perform user call := by
  have hregistered : call.service = (s.register name service).config.serviceName := h
  rw [perform_of_service_eq hregistered, perform_of_service_eq h, register, NameMap.get?_insert]
  by_cases hname : call.method = name
  · rw [if_pos hname, if_pos hname]
  · rw [if_neg hname, if_neg hname]

theorem perform_of_carries (h : s.Carries r user call) :
    s.perform user call = match s.services.get? call.method with
      | some service => service.call s.store user call.params
      | none => .error (.unknownMethod call.method) :=
  perform_of_service_eq h.addressed

/-- A call to the server's namespace is answered with the outcome of the service of its method. -/
theorem answer_of_service {service : Rpc.Service} (h : s.Carries r user call)
    (hservice : s.services.get? call.method = some service) :
    (s.answer r).1 = respond ⟨call.id, (service.call s.store user call.params).map Prod.fst⟩ := by
  have hperform : s.perform user call = service.call s.store user call.params := by
    rw [perform_of_carries h, hservice]
  rw [answer_of_carries h]
  cases hcall : service.call s.store user call.params with
  | ok found =>
    rw [reply_of_perform_ok (hperform.trans hcall)]
    rfl
  | error fault =>
    rw [reply_of_perform_error (hperform.trans hcall)]
    rfl

/-- A request that carries no call to the server's namespace leaves the server as it is. -/
theorem answer_of_not_carries (h : ∀ user call, ¬ s.Carries r user call) : (s.answer r).2 = s := by
  by_cases hposted : s.takesCalls r.path = true ∧ r.method = .post
  · rw [answer_of_posted hposted.2 hposted.1]
    cases hauthorized : Session.userOf s.config.defaultUser r with
    | error rejection => rfl
    | ok user =>
      show (s.answerAs user r).2 = s
      cases hreadable : Rpc.Request.ofHttp r with
      | error fault => rw [answerAs, hreadable]
      | ok call =>
        have hservice : call.service ≠ s.config.serviceName := fun haddressed =>
          h user call ⟨hposted.2, hposted.1, hauthorized, hreadable, haddressed⟩
        rw [answerAs_of_ofHttp hreadable, reply_of_perform_error (perform_of_service_ne hservice)]
  · rw [answer_of_not_posted hposted]

/-- A request leaves the server as it is, or carries a call whose service gives a result; then this
result is the answer, and the service's store is the one of the server. -/
theorem answer_unchanged_or_performed (s : Server) (r : Http.Request) :
    (s.answer r).2 = s ∨ ∃ user call service result store, s.Carries r user call ∧
      s.services.get? call.method = some service ∧
      service.call s.store user call.params = .ok (result, store) ∧
      s.answer r = (respond ⟨call.id, .ok result⟩, s.withStore store) := by
  by_cases h : ∃ user call, s.Carries r user call
  · obtain ⟨user, call, hcarries⟩ := h
    have hanswer := answer_of_carries hcarries
    have hcall := perform_of_carries hcarries
    cases hperform : s.perform user call with
    | error fault =>
      rw [reply_of_perform_error hperform] at hanswer
      exact .inl (congrArg Prod.snd hanswer)
    | ok found =>
      rw [reply_of_perform_ok hperform] at hanswer
      -- a call has a result only where its method names a service
      cases hservice : s.services.get? call.method with
      | none => simp [hservice, hperform] at hcall
      | some service =>
        rw [hservice, hperform] at hcall
        exact .inr ⟨user, call, service, found.1, found.2, hcarries, hservice, hcall.symm, hanswer⟩
  · exact .inl (answer_of_not_carries fun user call hcarries => h ⟨user, call, hcarries⟩)

/-! ## Runs -/

/-- The server after a run of requests. -/
def run (s : Server) (requests : List Http.Request) : Server :=
  requests.foldl (fun s r => (s.answer r).2) s

/-- The answers to a run of requests. -/
def responses (s : Server) : List Http.Request → List Http.Response
  | [] => []
  | r :: rest => (s.answer r).1 :: responses (s.answer r).2 rest

theorem run_append (s : Server) (before later : List Http.Request) :
    s.run (before ++ later) = (s.run before).run later :=
  List.foldl_append

theorem responses_append (s : Server) (before later : List Http.Request) :
    s.responses (before ++ later) = s.responses before ++ (s.run before).responses later := by
  induction before generalizing s with
  | nil => rfl
  | cons r before ih => exact congrArg ((s.answer r).1 :: ·) (ih (s.answer r).2)

/-- Answering a request changes nothing of a server but its store. -/
theorem answer_eq_withStore (s : Server) (r : Http.Request) :
    (s.answer r).2 = s.withStore (s.answer r).2.store := by
  rcases answer_unchanged_or_performed s r with h | ⟨_, _, _, _, _, _, _, _, h⟩
  · rw [h]
    rfl
  · rw [h]
    rfl

/-- A run changes nothing of a server but its store. -/
theorem run_eq_withStore (s : Server) (requests : List Http.Request) :
    s.run requests = s.withStore (s.run requests).store := by
  induction requests generalizing s with
  | nil => rfl
  | cons r requests ih =>
    have hlater : s.run (r :: requests) =
        (s.answer r).2.withStore (s.run (r :: requests)).store := ih (s.answer r).2
    rw [answer_eq_withStore] at hlater
    exact hlater

theorem services_run (s : Server) (requests : List Http.Request) :
    (s.run requests).services = s.services := by
  rw [run_eq_withStore, withStore]

theorem config_run (s : Server) (requests : List Http.Request) :
    (s.run requests).config = s.config := by
  rw [run_eq_withStore]
  rfl

theorem takesCalls_run (s : Server) (requests : List Http.Request) (path : String) :
    (s.run requests).takesCalls path = s.takesCalls path := by
  rw [run_eq_withStore]
  rfl

/-! ## Starting -/

/-- What a server that has started consists of. -/
theorem start_eq_ok_iff {config : Config} {files : Files} {startedAt : String} :
    start config files startedAt = .ok s ↔
      ∃ schema seed store, Catalog.schema files config.schemaPath = .ok schema ∧
        Catalog.seed files config.seedPath = .ok seed ∧
        Store.withDataset schema seed = .ok store ∧ config.callPattern?.isSome ∧
        s = ⟨config, store, Rpc.Service.builtIn, startedAt⟩ := by
  unfold start
  simp only [bind_eq_ok_iff, mapError_eq_ok_iff]
  constructor
  · rintro ⟨schema, hschema, seed, hseed, store, hstore, h⟩
    split at h
    · rename_i pattern hpattern
      cases h
      exact ⟨schema, seed, store, hschema, hseed, hstore, by rw [hpattern]; rfl, rfl⟩
    · cases h
  · rintro ⟨schema, seed, store, hschema, hseed, hstore, hpattern, rfl⟩
    obtain ⟨pattern, hpattern⟩ := Option.isSome_iff_exists.mp hpattern
    exact ⟨schema, hschema, seed, hseed, store, hstore, by rw [hpattern]; rfl⟩

theorem config_of_start {config : Config} {files : Files} {startedAt : String}
    (hstart : start config files startedAt = .ok s) : s.config = config := by
  obtain ⟨_, _, _, _, _, _, _, rfl⟩ := start_eq_ok_iff.mp hstart
  rfl

theorem services_of_start {config : Config} {files : Files} {startedAt : String}
    (hstart : start config files startedAt = .ok s) : s.services = Rpc.Service.builtIn := by
  obtain ⟨_, _, _, _, _, _, _, rfl⟩ := start_eq_ok_iff.mp hstart
  rfl

/-- The server of an empty environment. -/
def ofDefaults (startedAt : String) : Server :=
  ⟨.default, .empty Catalog.builtIn, Rpc.Service.builtIn, startedAt⟩

theorem start_ofDefaults (startedAt : String) :
    start .default (fun _ => none) startedAt = .ok (ofDefaults startedAt) := by
  have hpattern : Config.default.callPattern?.isSome := by decide
  exact start_eq_ok_iff.mpr
    ⟨Catalog.builtIn, .empty, .empty Catalog.builtIn, rfl, rfl, rfl, hpattern, rfl⟩

/-- The octets of a text of ASCII characters. -/
def octets (text : String) : List UInt8 := text.toList.map fun c => UInt8.ofNat c.toNat

/-- The request that posts a call to the default path, with the headers of its credentials. -/
def posting (credentials : List (String × List UInt8)) (call : String) : Http.Request :=
  ⟨.post, "/rpc", ("content-type", octets "application/json") :: credentials, octets call⟩

end Server

end RecordStore
