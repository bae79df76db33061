/-
# RecordStore.Proofs.Server.Undeclared — undeclared fields do not interfere.

Two runs of one server are compared whose requests are the same, but that calls which put an entity
may give its data other fields beyond those that its type declares (`SameButUndeclared`).  The
undeclared fields come back in the answer of the put itself and nowhere else: in the end the two
servers are equal, and the answers are pairwise equal, or are the entities that two differing puts
have stored, which agree on all declared fields (`AnsweredAlike`).

`answer_alike` is the step, for one request on each side, and `run_alike` the run.  A server may also
have started from seeds that differ in undeclared fields alone; it is then the same server from the
start on.
-/
import Mathlib.Data.List.Forall2
import RecordStore.Proofs.Server.Simulation
import RecordStore.Proofs.Store.Undeclared

namespace RecordStore

/-! ## Calls -/

namespace Rpc

/-- Two calls are the same, or both put data as an entity of one type, and the data agree on all
fields that this type declares. -/
inductive Request.SameButUndeclared (schema : Schema) : Request → Request → Prop where
  | same (call : Request) : SameButUndeclared schema call call
  | put (id : Value) (service typeName : String) {data data' : Record} (rest : List Value)
      (agree : ∀ t, schema.resolve typeName = .ok t →
        Record.AgreeOn t.fieldNames data data') :
    SameButUndeclared schema ⟨id, service, "put", .text typeName :: data.toValue :: rest⟩
      ⟨id, service, "put", .text typeName :: data'.toValue :: rest⟩

/-- Two puts as entities of one type have given data that agree on its fields, and the same store. -/
structure PutAlike (schema : Schema) (typeName : String) (a a' : Value × Store) : Prop where
  data : ∃ t d d', schema.resolve typeName = .ok t ∧ a.1 = Record.toValue d ∧
    a'.1 = Record.toValue d' ∧ Record.AgreeOn t.fieldNames d d'
  store : a.2 = a'.2

theorem asked_alike {α β : Type} {R : α → β → Prop} {x : Except Error α} {x' : Except Error β}
    (h : Outcome.Alike R x x') : Outcome.Alike R (asked x) (asked x') := by
  cases h with
  | refused cause => exact .refused (CallFault.refused cause)
  | given hr => exact .given hr

theorem callPut_alike (s : Store) {typeName : String} {data data' : Record} (rest : List Value)
    (h : ∀ t, s.schema.resolve typeName = .ok t → Record.AgreeOn t.fieldNames data data') :
    Outcome.Alike (PutAlike s.schema typeName)
      (callPut s (.text typeName :: data.toValue :: rest))
      (callPut s (.text typeName :: data'.toValue :: rest)) := by
  rw [callPut_of_params rfl rfl, callPut_of_params rfl rfl, Record.ofValue_toValue,
    Record.ofValue_toValue]
  apply asked_alike
  show Outcome.Alike _ (Entity.ofTypeNamed s.schema typeName data >>= _)
    (Entity.ofTypeNamed s.schema typeName data' >>= _)
  unfold Entity.ofTypeNamed
  cases ht : s.schema.resolve typeName with
  | error cause => exact .refused cause
  | ok t =>
    have hvalid : t.Valid := Schema.valid_of_mem_toList (Schema.mem_toList_of_resolve ht)
    apply (Store.put_ofType_alike s hvalid (h t ht)).map
    intro saved saved' hsaved
    exact ⟨⟨t, saved.entity.data, saved'.entity.data, ht, rfl, rfl, hsaved.data⟩, hsaved.store⟩

end Rpc

/-! ## Requests -/

namespace Server

/-- Two requests are the same, or hold calls, for the same path and with the same credentials, that
are the same but for undeclared fields. -/
inductive SameButUndeclared (schema : Schema) : Http.Request → Http.Request → Prop where
  | same (r : Http.Request) : SameButUndeclared schema r r
  | calls {r r' : Http.Request} {call call' : Rpc.Request} (method : r.method = r'.method)
      (path : r.path = r'.path)
      (credentials : r.headerText? "authorization" = r'.headerText? "authorization")
      (readable : Rpc.Request.ofHttp r = .ok call) (readable' : Rpc.Request.ofHttp r' = .ok call')
      (alike : call.SameButUndeclared schema call') : SameButUndeclared schema r r'

/-- Two requests are answered in the same way, or put different data in one type and are answered
with records that agree on all fields which this type declares. -/
inductive AnsweredAlike (schema : Schema) :
    Http.Request × Http.Response → Http.Request × Http.Response → Prop where
  | same (r r' : Http.Request) (response : Http.Response) :
    AnsweredAlike schema (r, response) (r', response)
  | put {r r' : Http.Request} {call call' : Rpc.Request} {typeName : String} {v v' : Value}
      {t : EntityType} {data data' : Record} (readable : Rpc.Request.ofHttp r = .ok call)
      (readable' : Rpc.Request.ofHttp r' = .ok call') (demands : Rpc.Demands call (.put typeName v))
      (demands' : Rpc.Demands call' (.put typeName v')) (differ : v ≠ v')
      (type : schema.resolve typeName = .ok t) (agree : Record.AgreeOn t.fieldNames data data') :
    AnsweredAlike schema (r, respond ⟨call.id, .ok data.toValue⟩)
      (r', respond ⟨call.id, .ok data'.toValue⟩)

/-- The requests of a run, each with its answer. -/
def exchanges (s : Server) (requests : List Http.Request) : List (Http.Request × Http.Response) :=
  requests.zip (s.responses requests)

variable {s : Server} {r r' : Http.Request} {user : User}

theorem perform_put_alike (hservices : s.services = Rpc.Service.builtIn) (user : User) (id : Value)
    (service : String) {typeName : String} {data data' : Record} (rest : List Value)
    (h : ∀ t, s.store.schema.resolve typeName = .ok t →
      Record.AgreeOn t.fieldNames data data') :
    Outcome.Alike (Rpc.PutAlike s.store.schema typeName)
      (s.perform user ⟨id, service, "put", .text typeName :: data.toValue :: rest⟩)
      (s.perform user ⟨id, service, "put", .text typeName :: data'.toValue :: rest⟩) := by
  by_cases hservice : service = s.config.serviceName
  · have hput : s.services.get? "put" = some .put := by
      rw [hservices]
      exact Rpc.Service.get?_builtIn_eq_some_iff.mpr (.inr (.inl ⟨rfl, rfl⟩))
    rw [perform_of_service_eq hservice, perform_of_service_eq hservice, hput]
    exact Rpc.callPut_alike s.store rest h
  · rw [perform_of_service_ne hservice, perform_of_service_ne hservice]
    exact .refused _

/-- A request on each side, on behalf of one user. -/
theorem answerAs_alike (hservices : s.services = Rpc.Service.builtIn) {call call' : Rpc.Request}
    (hreadable : Rpc.Request.ofHttp r = .ok call) (hreadable' : Rpc.Request.ofHttp r' = .ok call')
    (h : call.SameButUndeclared s.store.schema call') :
    (s.answerAs user r).2 = (s.answerAs user r').2 ∧
      AnsweredAlike s.store.schema (r, (s.answerAs user r).1) (r', (s.answerAs user r').1) := by
  rw [answerAs_of_ofHttp hreadable, answerAs_of_ofHttp hreadable']
  cases h with
  | same => exact ⟨rfl, .same r r' _⟩
  | @put id service typeName data data' rest agree =>
    by_cases hdata : data.toValue = data'.toValue
    · rw [hdata]
      exact ⟨rfl, .same r r' _⟩
    · rcases (perform_put_alike hservices user id service rest agree).eq_error_or_eq_ok with
        ⟨fault, hfault, hfault'⟩ | ⟨⟨_, store⟩, ⟨_, store'⟩, hgiven, hgiven', hput⟩
      · rw [reply_of_perform_error hfault, reply_of_perform_error hfault']
        exact ⟨rfl, .same r r' _⟩
      · obtain ⟨⟨t, d, d', ht, rfl, rfl, hagree⟩, rfl⟩ := hput
        rw [reply_of_perform_ok hgiven, reply_of_perform_ok hgiven']
        have hdemands : Rpc.Demands
            ⟨id, service, "put", .text typeName :: data.toValue :: rest⟩
            (.put typeName data.toValue) := .put rfl rfl rfl
        have hdemands' : Rpc.Demands
            ⟨id, service, "put", .text typeName :: data'.toValue :: rest⟩
            (.put typeName data'.toValue) := .put rfl rfl rfl
        exact ⟨rfl, .put hreadable hreadable' hdemands hdemands' hdata ht hagree⟩

/-- A request on each side. -/
theorem answer_alike (hservices : s.services = Rpc.Service.builtIn)
    (h : SameButUndeclared s.store.schema r r') :
    (s.answer r).2 = (s.answer r').2 ∧
      AnsweredAlike s.store.schema (r, (s.answer r).1) (r', (s.answer r').1) := by
  cases h with
  | same => exact ⟨rfl, .same r r _⟩
  | calls hmethod hpath hcredentials hreadable hreadable' hcalls =>
    have huser : Session.userOf s.config.defaultUser r = Session.userOf s.config.defaultUser r' := by
      rw [Session.userOf, Session.userOf, hcredentials]
    by_cases hposted : s.takesCalls r.path = true ∧ r.method = .post
    · rw [answer_of_posted hposted.2 hposted.1,
        answer_of_posted (hmethod ▸ hposted.2) (hpath ▸ hposted.1), ← huser]
      cases Session.userOf s.config.defaultUser r with
      | error rejection => exact ⟨rfl, .same r r' _⟩
      | ok user => exact answerAs_alike hservices hreadable hreadable' hcalls
    · have hposted' : ¬ (s.takesCalls r'.path = true ∧ r'.method = .post) := by
        rw [← hpath, ← hmethod]
        exact hposted
      have hpage : s.answerPage r = s.answerPage r' := by
        simp only [answerPage, hpath, hmethod]
      rw [answer_of_not_posted hposted, answer_of_not_posted hposted', hmethod, hpage]
      exact ⟨rfl, .same r r' _⟩

/-! ## Runs -/

theorem schema_answer (hservices : s.services = Rpc.Service.builtIn) (r : Http.Request) :
    (s.answer r).2.store.schema = s.store.schema := by
  obtain ⟨ops, _, hanswer⟩ := answer_serves hservices r
  rw [hanswer]
  exact Store.schema_run s.store ops

/-- A run of requests on each side. -/
theorem run_alike {requests requests' : List Http.Request}
    (hservices : s.services = Rpc.Service.builtIn)
    (h : List.Forall₂ (SameButUndeclared s.store.schema) requests requests') :
    s.run requests = s.run requests' ∧
      List.Forall₂ (AnsweredAlike s.store.schema) (s.exchanges requests)
        (s.exchanges requests') := by
  induction requests generalizing s requests' with
  | nil =>
    cases h
    exact ⟨rfl, .nil⟩
  | cons r requests ih =>
    cases h with
    | @cons _ r' _ requests' hfirst hrest =>
      -- both sides go on from one server, which has the schema of the first
      obtain ⟨hserver, hanswers⟩ := answer_alike hservices hfirst
      have hservices' : (s.answer r).2.services = Rpc.Service.builtIn :=
        (services_run s [r]).trans hservices
      rw [← schema_answer hservices r] at hrest
      obtain ⟨hrun, hlater⟩ := ih hservices' hrest
      rw [schema_answer hservices r] at hlater
      refine ⟨?_, .cons hanswers ?_⟩
      · show (s.answer r).2.run requests = (s.answer r').2.run requests'
        rw [← hserver]
        exact hrun
      · show List.Forall₂ _ ((s.answer r).2.exchanges requests) ((s.answer r').2.exchanges requests')
        rw [← hserver]
        exact hlater

/-- Fields that a type does not declare do not interfere.  Two servers whose seeds differ in
undeclared fields alone start alike, and to two runs of requests that differ in undeclared fields
alone they end in the same state and give answers that are the same, or are the data of two differing
puts and agree on all fields that the type declares. -/
theorem undeclared_do_not_interfere {config : Config} {files files' : Files} {startedAt : String}
    {schema : Schema} {seed seed' : Dataset}
    (hschema : Catalog.schema files config.schemaPath = .ok schema)
    (hschema' : Catalog.schema files' config.schemaPath = .ok schema)
    (hseed : Catalog.seed files config.seedPath = .ok seed)
    (hseed' : Catalog.seed files' config.seedPath = .ok seed')
    (hseeds : seed.AgreeOnDeclared schema seed') :
    start config files startedAt = start config files' startedAt ∧
    ∀ first first', start config files startedAt = .ok first →
      start config files' startedAt = .ok first' → ∀ requests requests',
        List.Forall₂ (SameButUndeclared schema) requests requests' →
          first.run requests = first'.run requests' ∧
          List.Forall₂ (AnsweredAlike schema) (first.exchanges requests)
            (first'.exchanges requests') := by
  have hstart : start config files startedAt = start config files' startedAt := by
    have hstore : Store.withDataset schema seed = Store.withDataset schema seed' :=
      Store.load_eq_of_agreeOnDeclared (.empty schema) hseeds
    simp only [start, hschema, hschema', hseed, hseed']
    show ((Store.withDataset schema seed).mapError _ >>= _) =
      ((Store.withDataset schema seed').mapError _ >>= _)
    rw [hstore]
  refine ⟨hstart, ?_⟩
  intro first first' hfirst hfirst' requests requests' hrequests
  obtain rfl := Except.ok.inj (hfirst.symm.trans (hstart.trans hfirst'))
  have hstored : first.store.schema = schema := by
    obtain ⟨_, _, store, hschema₀, _, hstore, _, rfl⟩ := start_eq_ok_iff.mp hfirst
    obtain rfl := Except.ok.inj (hschema.symm.trans hschema₀)
    exact Store.schema_of_load hstore
  rw [← hstored] at hrequests ⊢
  exact run_alike (services_of_start hfirst) hrequests

/-- A tag with a number as its key, and with a colour, which its type does not declare. -/
def colouredTag (colour : String) : Record :=
  (Record.empty.insert "value" (.number (.ofWord 7))).insert "colour" (.text colour)

/-- The request that puts such a tag. -/
def puttingTag (colour : String) : Http.Request :=
  posting [] ("[1,\"rpcsim.features\",\"put\",[\"Tag\",\x7b\"colour\":\"" ++ colour ++
    "\",\"value\":7\x7d]]")

/-- The call that this request holds. -/
def callWithTag (colour : String) : Rpc.Request :=
  ⟨.number (.ofWord 1), "rpcsim.features", "put", [.text "Tag", (colouredTag colour).toValue]⟩

/-- The request that lists all tags. -/
def listingTags : Http.Request := posting [] "[2,\"rpcsim.features\",\"query\",[\"Tag\"]]"

/-- A seed of one tag, with a colour and no key of its own. -/
def colouredSeed (colour : String) : Dataset :=
  Dataset.empty.insert "tags" "zoo" (Record.empty.insert "colour" (.text colour))

/-- The files of a server with this seed. -/
def seedFile (colour : String) : Files := fun name =>
  if name = "seed.json" then
    some ("\x7b\"tags\":\x7b\"zoo\":\x7b\"colour\":\"" ++ colour ++ "\"\x7d\x7d\x7d")
  else none

theorem colour_undeclared : ∀ t ∈ Catalog.builtIn.toList, "colour" ∉ t.fieldNames := by decide

theorem puttingTag_alike :
    SameButUndeclared Catalog.builtIn (puttingTag "red") (puttingTag "blue") := by
  have hred : Rpc.Request.ofHttp (puttingTag "red") = .ok (callWithTag "red") := by decide +kernel
  have hblue : Rpc.Request.ofHttp (puttingTag "blue") = .ok (callWithTag "blue") := by
    decide +kernel
  have hmethod : (puttingTag "red").method = (puttingTag "blue").method := by decide +kernel
  have hpath : (puttingTag "red").path = (puttingTag "blue").path := by decide +kernel
  have hcredentials : (puttingTag "red").headerText? "authorization" =
      (puttingTag "blue").headerText? "authorization" := by decide +kernel
  apply SameButUndeclared.calls hmethod hpath hcredentials hred hblue
  apply Rpc.Request.SameButUndeclared.put
  intro t ht
  have hcolour := colour_undeclared t (Schema.mem_toList_of_resolve ht)
  exact (Record.AgreeOn.refl t.fieldNames _).insert_other hcolour _ _

theorem colouredSeed_agree :
    (colouredSeed "red").AgreeOnDeclared Catalog.builtIn (colouredSeed "blue") := by
  apply (Dataset.agreeOnDeclared_empty Catalog.builtIn).insert
  intro t ht _
  exact (Record.AgreeOn.refl t.fieldNames _).insert_other (colour_undeclared t ht) _ _

theorem colours_do_not_interfere :
    let config : Config := { Config.default with seedPath := some "seed.json" }
    Catalog.seed (seedFile "red") config.seedPath = .ok (colouredSeed "red") ∧
    Catalog.seed (seedFile "blue") config.seedPath = .ok (colouredSeed "blue") ∧
    (colouredSeed "red").AgreeOnDeclared Catalog.builtIn (colouredSeed "blue") ∧
    List.Forall₂ (SameButUndeclared Catalog.builtIn) [puttingTag "red", listingTags]
      [puttingTag "blue", listingTags] ∧
    ∃ first first', start config (seedFile "red") "now" = .ok first ∧
      start config (seedFile "blue") "now" = .ok first' ∧
      first.run [puttingTag "red", listingTags] = first'.run [puttingTag "blue", listingTags] ∧
      List.Forall₂ (AnsweredAlike Catalog.builtIn)
        (first.exchanges [puttingTag "red", listingTags])
        (first'.exchanges [puttingTag "blue", listingTags]) := by
  intro config
  have hseed : Catalog.seed (seedFile "red") config.seedPath = .ok (colouredSeed "red") := by
    decide +kernel
  have hseed' : Catalog.seed (seedFile "blue") config.seedPath = .ok (colouredSeed "blue") := by
    decide +kernel
  have hrequests : List.Forall₂ (SameButUndeclared Catalog.builtIn)
      [puttingTag "red", listingTags] [puttingTag "blue", listingTags] :=
    .cons puttingTag_alike (.cons (.same listingTags) .nil)
  have hpattern : config.callPattern?.isSome := by decide
  obtain ⟨store, hstore⟩ :
      ∃ store, Store.withDataset Catalog.builtIn (colouredSeed "red") = .ok store := ⟨_, rfl⟩
  have hfirst : start config (seedFile "red") "now" =
      .ok ⟨config, store, Rpc.Service.builtIn, "now"⟩ :=
    start_eq_ok_iff.mpr ⟨Catalog.builtIn, _, store, rfl, hseed, hstore, hpattern, rfl⟩
  obtain ⟨hsame, halike⟩ := @undeclared_do_not_interfere config (seedFile "red") (seedFile "blue")
    "now" Catalog.builtIn _ _ rfl rfl hseed hseed' colouredSeed_agree
  have hfirst' : start config (seedFile "blue") "now" = _ := hsame.symm.trans hfirst
  exact ⟨hseed, hseed', colouredSeed_agree, hrequests, _, _, hfirst, hfirst',
    halike _ _ hfirst hfirst' _ _ hrequests⟩

end Server

end RecordStore
