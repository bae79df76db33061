/-
# RecordStore.Proofs.Server.Simulation — a server answers as its store would.

The data services are operations of the store that arrive as calls.  Three definitions say what is
meant by this without looking into the services: `Rpc.Demands`, what a call asks of the store;
`Store.Meets`, what the store answers to such a demand and the operations that it takes for the
answer; and `Server.Trace`, a run of requests met one after another by one store.

`answer_serves` is the step: one request is answered as the store of the server meets its demand,
and a request without a demand leaves the store as it is.  `run_simulates_store` is the whole run, from
the start of the server on.
-/
import RecordStore.Proofs.Server.Run
import RecordStore.Proofs.Store.Contents

namespace RecordStore

/-! ## What calls ask for -/

namespace Rpc

/-- What a call asks of the store. -/
inductive Demand where
  | query (typeName : String) (c : Option Criterion)
  | put (typeName : String) (data : Value)
  | remove (typeName : String) (key : Value)

/-- The criterion that a parameter gives.  One that is absent or `null` gives none. -/
inductive GivesCriterion : Option Value → Option Criterion → Prop where
  | absent : GivesCriterion none none
  | null : GivesCriterion (some .null) none
  | given {v : Value} {c : Criterion} (h : Criterion.ofValue? v = some c) :
    GivesCriterion (some v) (some c)

/-- The demand of a call of a data service, whose parameters are read by place. -/
inductive Demands (call : Request) : Demand → Prop where
  | query {typeName : String} {c : Option Criterion} (method : call.method = "query")
      (type : call.params[0]? = some (.text typeName))
      (criteria : GivesCriterion call.params[1]? c) : Demands call (.query typeName c)
  | put {typeName : String} {v : Value} (method : call.method = "put")
      (type : call.params[0]? = some (.text typeName))
      (data : call.params[1]? = some v) : Demands call (.put typeName v)
  | remove {typeName : String} {v : Value} (method : call.method = "remove")
      (type : call.params[0]? = some (.text typeName))
      (key : call.params[1]? = some v) : Demands call (.remove typeName v)

/-! ### Parameters -/

section Parameters

variable {params : List Value} {place : Nat} {name : String}

theorem param_eq_ok_iff {v : Value} :
    param params place name = .ok v ↔ params[place]? = some v := by
  unfold param
  split <;> simp_all

theorem textParam_eq_ok_iff {text : String} :
    textParam params place name = .ok text ↔ params[place]? = some (.text text) := by
  unfold textParam
  simp only [bind_eq_ok_iff, param_eq_ok_iff]
  constructor
  · rintro ⟨v, hv, h⟩
    split at h
    · rename_i found hjson
      cases h
      rw [hv]
      exact congrArg some (Value.ext hjson)
    · cases h
  · intro h
    exact ⟨.text text, h, rfl⟩

theorem criterionParam_eq_ok_iff {c : Option Criterion} :
    criterionParam params place name = .ok c ↔ GivesCriterion params[place]? c := by
  unfold criterionParam
  constructor
  · intro h
    split at h
    · rename_i habsent
      cases h
      rw [habsent]
      exact .absent
    · rename_i v hv
      rw [hv]
      split at h
      · rename_i hnull
        cases h
        rw [Value.isNull_iff.mp hnull]
        exact .null
      · split at h
        · rename_i c hc
          cases h
          exact .given hc
        · cases h
  · intro h
    generalize hfound : params[place]? = found at h
    cases h with
    | absent => rfl
    | null => rfl
    | @given v c hc =>
      have hnull : ¬ v.isNull = true := by
        intro hnull
        rw [Value.isNull_iff.mp hnull] at hc
        cases hc
      simp [hnull, hc]

end Parameters

end Rpc

/-! ## What a store answers -/

namespace Store

variable {s : Store}

/-- The outcome of a demand on a store, and the operations of the store that it takes. -/
inductive Meets (s : Store) : Rpc.Demand → Except Error Value → List Operation → Prop where
  | query (typeName : String) (c : Option Criterion) :
    Meets s (.query typeName c)
      ((s.query typeName c).map fun records => .array (records.map Record.toValue)) []
  /-- An entity is answered with its data, the key filled in where it was missing. -/
  | put {typeName : String} {v : Value} {e : Entity}
      (he : (Record.ofValue v >>= Entity.ofTypeNamed s.schema typeName) = .ok e) :
    Meets s (.put typeName v)
      ((s.put e).map fun saved => (e.data.filled e.keyField saved.key).toValue) [.put e]
  /-- What is no entity of a type is refused. -/
  | putOther {typeName : String} {v : Value} {cause : Error}
      (he : (Record.ofValue v >>= Entity.ofTypeNamed s.schema typeName) = .error cause) :
    Meets s (.put typeName v) (.error cause) []
  | remove {typeName : String} {v : Value} {key : String} (hkey : v.KeyText key) :
    Meets s (.remove typeName v) ((s.remove typeName key).map fun _ => .bool true)
      [.remove typeName key]
  /-- Under no key nothing is stored, so nothing is removed. -/
  | removeNothing (typeName : String) :
    Meets s (.remove typeName .null) ((s.schema.resolve typeName).map fun _ => .bool true) []
  /-- What is no key is refused, once the type is known. -/
  | removeOther (typeName : String) {v : Value} {cause : Error}
      (hkey : keyOfValue (some v) = .error cause) :
    Meets s (.remove typeName v) (s.schema.resolve typeName >>= fun _ => .error cause) []

theorem run_append (s : Store) (ops later : List Operation) :
    s.run (ops ++ later) = (s.run ops).run later :=
  List.foldl_append

theorem after_of_perform_error {op : Operation} {cause : Error} (h : s.perform op = .error cause) :
    s.after op = s := by
  rw [after, h]

theorem after_of_perform_ok {s' : Store} {op : Operation} (h : s.perform op = .ok s') :
    s.after op = s' := by
  rw [after, h]

/-- An operation whose demand is refused has changed nothing. -/
theorem Meets.run_of_error {d : Rpc.Demand} {outcome : Except Error Value} {ops : List Operation}
    (h : s.Meets d outcome ops) {cause : Error} (hrefused : outcome = .error cause) :
    s.run ops = s := by
  -- only a put and a removal take an operation, and the store refuses it for the same cause
  cases h with
  | query | putOther | removeNothing | removeOther => rfl
  | @put typeName v e he =>
    cases hput : s.put e with
    | ok saved =>
      rw [hput] at hrefused
      cases hrefused
    | error cause => exact after_of_perform_error (by rw [perform, hput]; rfl)
  | @remove typeName v key hkey =>
    cases hremove : s.remove typeName key with
    | ok s' =>
      rw [hremove] at hrefused
      cases hrefused
    | error cause => exact after_of_perform_error hremove

end Store

/-! ## Services -/

namespace Rpc

variable {s : Store} {params : List Value} {typeName : String} {v : Value}

/-- Refusals are reported step by step. -/
theorem asked_bind {α β : Type} (x : Except Error α) (f : α → Except Error β) :
    asked (x >>= f) = asked x >>= fun a => asked (f a) := by
  cases x <;> rfl

theorem asked_map {α β : Type} (x : Except Error α) (f : α → β) :
    asked (x.map f) = asked x >>= fun a => pure (f a) := by
  cases x <;> rfl

/-- The outcome of a service is the store's answer to a demand, with the store after the operations
that this took. -/
def Fulfils (s : Store) (d : Demand) (outcome : Except CallFault (Value × Store)) : Prop :=
  ∃ answer ops, s.Meets d answer ops ∧
    outcome = asked (answer.map fun result => (result, s.run ops))

theorem fulfils_callQuery {c : Option Criterion} (type : params[0]? = some (.text typeName))
    (criteria : GivesCriterion params[1]? c) :
    Fulfils s (.query typeName c) ((callQuery s params).map fun found => (found, s)) := by
  refine ⟨_, _, .query typeName c, ?_⟩
  rw [callQuery, textParam_eq_ok_iff.mpr type, criterionParam_eq_ok_iff.mpr criteria]
  show (asked (s.query typeName c) >>= fun records => _).map _ = _
  cases s.query typeName c <;> rfl

/-- The entity is made of the parameters before the store is asked to put it. -/
theorem callPut_of_params (type : params[0]? = some (.text typeName))
    (data : params[1]? = some v) :
    callPut s params = asked ((Record.ofValue v >>= Entity.ofTypeNamed s.schema typeName) >>=
      fun e => (s.put e).map fun saved => (saved.entity.data.toValue, saved.store)) := by
  rw [callPut, textParam_eq_ok_iff.mpr type, param_eq_ok_iff.mpr data]
  simp only [asked_bind, asked_map, bind_assoc]
  rfl

theorem fulfils_callPut (type : params[0]? = some (.text typeName))
    (data : params[1]? = some v) : Fulfils s (.put typeName v) (callPut s params) := by
  rw [callPut_of_params type data]
  cases he : Record.ofValue v >>= Entity.ofTypeNamed s.schema typeName with
  | error cause => exact ⟨_, _, .putOther he, rfl⟩
  | ok e =>
    refine ⟨_, _, .put he, ?_⟩
    show asked ((s.put e).map _) = _
    cases hput : s.put e with
    | error cause => rfl
    | ok saved =>
      have hstore : s.run [.put e] = saved.store :=
        Store.after_of_perform_ok (Store.perform_put_eq_ok_iff.mpr ⟨saved, hput, rfl⟩)
      rw [hstore]
      show asked (.ok (saved.entity.data.toValue, saved.store)) = _
      rw [Store.entity_of_put hput]
      rfl

/-- An entity that has nothing but a key is removed by this key. -/
theorem removeEntity_of_key {t : EntityType} (ht : s.schema.resolve typeName = .ok t) :
    s.removeEntity (.ofType t (Record.empty.insert t.keyField v)) =
      keyOfValue (some v) >>= fun found => match found with
        | some key => s.remove typeName key
        | none => .ok s := by
  have hkey : (Entity.ofType t (Record.empty.insert t.keyField v)).key = keyOfValue (some v) := by
    show keyOfValue ((Record.empty.insert t.keyField v).get? t.keyField) = _
    rw [Record.get?_insert, if_pos rfl]
  have hname : (Entity.ofType t (Record.empty.insert t.keyField v)).typeName = typeName :=
    Schema.name_of_resolve ht
  rw [Store.removeEntity, hkey, hname, ht]
  rfl

/-- The type is looked up before the key is looked at. -/
theorem callRemove_of_params (type : params[0]? = some (.text typeName))
    (key : params[1]? = some v) :
    callRemove s params = asked (s.schema.resolve typeName >>= fun _ =>
      (keyOfValue (some v) >>= fun found => match found with
        | some key => s.remove typeName key
        | none => .ok s).map fun s' => (.bool true, s')) := by
  rw [callRemove, textParam_eq_ok_iff.mpr type, param_eq_ok_iff.mpr key]
  show (asked (s.schema.resolve typeName) >>= fun t =>
    asked (s.removeEntity (.ofType t (Record.empty.insert t.keyField v))) >>= fun s' => _) = _
  cases ht : s.schema.resolve typeName with
  | error cause => rfl
  | ok t =>
    show (asked (s.removeEntity _) >>= fun s' => _) = asked (Except.map _ _)
    rw [removeEntity_of_key ht, asked_map]

theorem fulfils_callRemove (type : params[0]? = some (.text typeName))
    (key : params[1]? = some v) : Fulfils s (.remove typeName v) (callRemove s params) := by
  rw [callRemove_of_params type key]
  -- the shape of the key decides which answer is due, then the type whether it is given
  cases hkey : keyOfValue (some v) with
  | error cause =>
    refine ⟨_, _, .removeOther typeName hkey, ?_⟩
    cases s.schema.resolve typeName <;> rfl
  | ok found =>
    cases found with
    | none =>
      obtain rfl : v = .null := by simpa using keyOfValue_eq_none_iff.mp hkey
      refine ⟨_, _, .removeNothing typeName, ?_⟩
      cases s.schema.resolve typeName <;> rfl
    | some key =>
      obtain ⟨_, ⟨⟩, htext⟩ := keyOfValue_eq_some_iff.mp hkey
      refine ⟨_, _, .remove htext, ?_⟩
      cases ht : s.schema.resolve typeName with
      | error cause =>
        rw [Store.remove_eq_error_iff.mpr ht]
        rfl
      | ok t =>
        show asked ((s.remove typeName key).map _) = _
        cases hremove : s.remove typeName key with
        | error cause => rfl
        | ok s' =>
          have hstore : s.run [.remove typeName key] = s' := Store.after_of_perform_ok hremove
          rw [hstore]
          rfl

variable {call : Request} {d : Demand}

/-- The service that a call with a demand names fulfils this demand. -/
theorem Demands.exists_service (h : Demands call d) :
    ∃ service, Service.builtIn.get? call.method = some service ∧
      ∀ s user, Fulfils s d (service.call s user call.params) := by
  cases h with
  | query method type criteria =>
    have hservice : Service.builtIn.get? call.method = some .query :=
      Service.get?_builtIn_eq_some_iff.mpr (.inl ⟨method, rfl⟩)
    exact ⟨_, hservice, fun s user => fulfils_callQuery type criteria⟩
  | put method type data =>
    have hservice : Service.builtIn.get? call.method = some .put :=
      Service.get?_builtIn_eq_some_iff.mpr (.inr (.inl ⟨method, rfl⟩))
    exact ⟨_, hservice, fun s user => fulfils_callPut type data⟩
  | remove method type key =>
    have hservice : Service.builtIn.get? call.method = some .remove :=
      Service.get?_builtIn_eq_some_iff.mpr (.inr (.inr (.inl ⟨method, rfl⟩)))
    exact ⟨_, hservice, fun s user => fulfils_callRemove type key⟩

/-- A call without a demand leaves the store as it is, since the services that write read all that
they ask for before anything else. -/
theorem store_of_no_demand {s s' : Store} {user : User} {service : Service} {result : Value}
    (hservice : Service.builtIn.get? call.method = some service)
    (hnone : ∀ d, ¬ Demands call d) (h : service.call s user call.params = .ok (result, s')) :
    s' = s := by
  rcases Service.store_of_call h with rfl | rfl | hstore
  · have hmethod : call.method = "put" := by
      simpa using Service.get?_builtIn_eq_some_iff.mp hservice
    obtain ⟨typeName, htype, h⟩ := bind_eq_ok_iff.mp h
    obtain ⟨v, hdata, _⟩ := bind_eq_ok_iff.mp h
    exact absurd (.put hmethod (textParam_eq_ok_iff.mp htype) (param_eq_ok_iff.mp hdata))
      (hnone (.put typeName v))
  · have hmethod : call.method = "remove" := by
      simpa using Service.get?_builtIn_eq_some_iff.mp hservice
    obtain ⟨typeName, htype, h⟩ := bind_eq_ok_iff.mp h
    obtain ⟨v, hkey, _⟩ := bind_eq_ok_iff.mp h
    exact absurd (.remove hmethod (textParam_eq_ok_iff.mp htype) (param_eq_ok_iff.mp hkey))
      (hnone (.remove typeName v))
  · exact hstore

end Rpc

/-! ## Requests -/

namespace Server

/-- A store that stands behind a server answers one request, by some operations.  What asks nothing
of the store takes no operation and is answered by the server alone. -/
inductive Serves (server : Server) (s : Store) (r : Http.Request) :
    Http.Response → List Operation → Prop where
  | demand {user : User} {call : Rpc.Request} {d : Rpc.Demand} {answer : Except Error Value}
      {ops : List Operation} (carries : server.Carries r user call) (demands : Rpc.Demands call d)
      (meets : s.Meets d answer ops) :
    Serves server s r (respond ⟨call.id, Rpc.asked answer⟩) ops
  | other {response : Http.Response}
      (none : ∀ user call d, server.Carries r user call → ¬ Rpc.Demands call d) :
    Serves server s r response []

/-- A store that stands behind a server answers a run of requests, each after the operations of the
earlier ones. -/
inductive Trace (server : Server) :
    Store → List Http.Request → List Http.Response → List Operation → Prop where
  | nil {s : Store} : Trace server s [] [] []
  | cons {s : Store} {r : Http.Request} {requests : List Http.Request} {response : Http.Response}
      {responses : List Http.Response} {ops later : List Operation}
      (first : server.Serves s r response ops)
      (rest : Trace server (s.run ops) requests responses later) :
    Trace server s (r :: requests) (response :: responses) (ops ++ later)

variable {s : Server} {r : Http.Request} {user : User} {call : Rpc.Request}

theorem reply_of_demands (hservices : s.services = Rpc.Service.builtIn) {d : Rpc.Demand}
    (hcarries : s.Carries r user call) (hd : Rpc.Demands call d) :
    ∃ answer ops, s.store.Meets d answer ops ∧
      s.reply user call = (⟨call.id, Rpc.asked answer⟩, s.withStore (s.store.run ops)) := by
  obtain ⟨service, hservice, hfulfils⟩ := hd.exists_service
  obtain ⟨answer, ops, hmeets, hcall⟩ := hfulfils s.store user
  have hperform : s.perform user call =
      Rpc.asked (answer.map fun result => (result, s.store.run ops)) := by
    rw [perform_of_carries hcarries, hservices, hservice]
    exact hcall
  refine ⟨answer, ops, hmeets, ?_⟩
  cases answer with
  | ok result => exact reply_of_perform_ok hperform
  | error cause =>
    rw [reply_of_perform_error hperform, hmeets.run_of_error rfl]
    rfl

/-- A request that asks nothing of the store leaves the server as it is. -/
theorem answer_of_no_demand (hservices : s.services = Rpc.Service.builtIn)
    (hnone : ∀ user call d, s.Carries r user call → ¬ Rpc.Demands call d) :
    (s.answer r).2 = s := by
  rcases answer_unchanged_or_performed s r with
    h | ⟨user, call, service, result, store, hcarries, hservice, hcall, hanswer⟩
  · exact h
  · rw [hservices] at hservice
    have hstore : store = s.store :=
      Rpc.store_of_no_demand hservice (fun d => hnone user call d hcarries) hcall
    rw [hanswer, hstore]
    rfl

/-- One request is answered as the store of the server answers it. -/
theorem answer_serves (hservices : s.services = Rpc.Service.builtIn) (r : Http.Request) :
    ∃ ops, s.Serves s.store r (s.answer r).1 ops ∧
      (s.answer r).2 = s.withStore (s.store.run ops) := by
  by_cases h : ∃ user call d, s.Carries r user call ∧ Rpc.Demands call d
  · obtain ⟨user, call, d, hcarries, hd⟩ := h
    obtain ⟨answer, ops, hmeets, hreply⟩ := reply_of_demands hservices hcarries hd
    rw [answer_of_carries hcarries, hreply]
    exact ⟨ops, .demand hcarries hd hmeets, rfl⟩
  · have hnone : ∀ user call d, s.Carries r user call → ¬ Rpc.Demands call d :=
      fun user call d hcarries hd => h ⟨user, call, d, hcarries, hd⟩
    exact ⟨[], .other hnone, answer_of_no_demand hservices hnone⟩

/-! ## Runs -/

/-- Which calls requests carry does not depend on the records of a server. -/
theorem carries_withStore_iff {store : Store} :
    (s.withStore store).Carries r user call ↔ s.Carries r user call :=
  ⟨fun h => ⟨h.posted, h.onPath, h.authorized, h.readable, h.addressed⟩,
    fun h => ⟨h.posted, h.onPath, h.authorized, h.readable, h.addressed⟩⟩

theorem serves_withStore {store s' : Store} {response : Http.Response} {ops : List Operation}
    (h : (s.withStore store).Serves s' r response ops) : s.Serves s' r response ops := by
  cases h with
  | demand hcarries hd hmeets => exact .demand (carries_withStore_iff.mp hcarries) hd hmeets
  | other hnone =>
    exact .other fun user call d hcarries => hnone user call d (carries_withStore_iff.mpr hcarries)

/-- A run of requests on a server is a run of operations on its store. -/
theorem run_serves (hservices : s.services = Rpc.Service.builtIn) (requests : List Http.Request)
    (store : Store) :
    ∃ ops, s.Trace store requests ((s.withStore store).responses requests) ops ∧
      (s.withStore store).run requests = s.withStore (store.run ops) := by
  induction requests generalizing store with
  | nil => exact ⟨[], .nil, rfl⟩
  | cons r requests ih =>
    -- the run goes on from the store after the operations of the first request
    obtain ⟨ops, hserves, hanswer⟩ := answer_serves (s := s.withStore store) hservices r
    obtain ⟨later, htrace, hrun⟩ := ih (store.run ops)
    have hnext : ((s.withStore store).answer r).2 = s.withStore (store.run ops) := hanswer
    refine ⟨ops ++ later, ?_, ?_⟩
    · rw [responses, hnext]
      exact .cons (serves_withStore hserves) htrace
    · show ((s.withStore store).answer r).2.run requests = _
      rw [hnext, hrun, Store.run_append]

/-- A tag is put without a key and removed, first under no key, then under its own as a number. -/
def tagRequests : List Http.Request :=
  [posting [] "[1,\"rpcsim.features\",\"put\",[\"Tag\",\x7b\"count\":3,\"value\":null\x7d]]",
    posting [] "[2,\"rpcsim.features\",\"remove\",[\"Tag\",null]]",
    posting [] "[3,\"rpcsim.features\",\"query\",[\"Tag\"]]",
    posting [] "[4,\"rpcsim.features\",\"remove\",[\"Tag\",0]]",
    posting [] "[5,\"rpcsim.features\",\"query\",[\"Tag\",null]]"]

/-- The tag is answered with its key, stays under no key, and goes under its own. -/
example : ((ofDefaults "now").responses tagRequests).map Http.Response.body =
    ["\x7b\"id\":1,\"result\":\x7b\"count\":3,\"value\":\"0\"\x7d\x7d",
      "\x7b\"id\":2,\"result\":true\x7d",
      "\x7b\"id\":3,\"result\":[\x7b\"count\":3,\"type\":null,\"value\":\"0\"\x7d]\x7d",
      "\x7b\"id\":4,\"result\":true\x7d",
      "\x7b\"id\":5,\"result\":[]\x7d"] := by
  decide +kernel

end Server

end RecordStore
