/-
# RecordStore.Proofs.Server.Shape — the shape of all that is stored and answered.

What a server holds is what its store holds after a run of operations that put only entities of its
schema's own types: first the seed is loaded, and then every request takes such operations or none
(`exists_typed_run`).  So all that is known of typed runs is known of servers.

`stored_and_answered_shape` says what that is.  A store has a partition for just the names that its
types have.  Every record has the declared fields of a type of its partition, neither more nor
fewer, with `null` for what was missing and a key that is not.  Where no partition is shared, this
holds of the type that was asked for in every answer to a query, be it the store that is asked or a
server.
-/
import RecordStore.Proofs.Server.Simulation
import RecordStore.Proofs.Store.Shape

namespace RecordStore

/-! ## Servers and typed runs -/

namespace Store

variable {s : Store}

/-- A demand only takes operations on entities of the schema's own types. -/
theorem Meets.isTyped {d : Rpc.Demand} {outcome : Except Error Value} {ops : List Operation}
    (h : s.Meets d outcome ops) : ∀ op ∈ ops, op.IsTyped s.schema := by
  cases h with
  | query | putOther | removeNothing | removeOther => exact fun op hop => nomatch hop
  | @put typeName v e he =>
    obtain ⟨data, _, hentity⟩ := bind_eq_ok_iff.mp he
    intro op hop
    obtain rfl := List.mem_singleton.mp hop
    exact ⟨typeName, data, hentity⟩
  | remove _ =>
    intro op hop
    obtain rfl := List.mem_singleton.mp hop
    trivial

end Store

namespace Server

variable {server s : Server} {r : Http.Request}

theorem Serves.isTyped {store : Store} {response : Http.Response} {ops : List Operation}
    (h : server.Serves store r response ops) : ∀ op ∈ ops, op.IsTyped store.schema := by
  cases h with
  | demand _ _ hmeets => exact hmeets.isTyped
  | other _ => exact fun op hop => nomatch hop

/-- All operations of a run of requests are on entities of the schema's own types. -/
theorem Trace.isTyped {store : Store} {requests : List Http.Request}
    {responses : List Http.Response} {ops : List Operation}
    (h : server.Trace store requests responses ops) : ∀ op ∈ ops, op.IsTyped store.schema := by
  induction h with
  | nil => exact fun op hop => nomatch hop
  | cons hfirst _ ih =>
    intro op hop
    rcases List.mem_append.mp hop with hop | hop
    · exact hfirst.isTyped op hop
    · have hlater := ih op hop
      rwa [Store.schema_run] at hlater

/-- Whatever a server is asked, its store is one that a typed run has left. -/
theorem exists_typed_run {config : Config} {files : Files} {startedAt : String} {first : Server}
    {schema : Schema} (hschema : Catalog.schema files config.schemaPath = .ok schema)
    (hstart : start config files startedAt = .ok first) (requests : List Http.Request) :
    ∃ ops, (∀ op ∈ ops, op.IsTyped schema) ∧
      (first.run requests).store = (Store.empty schema).run ops := by
  obtain ⟨found, seed, store, hfound, _, hstore, _, rfl⟩ := start_eq_ok_iff.mp hstart
  obtain rfl : schema = found := Except.ok.inj (hschema.symm.trans hfound)
  have hseeded : (Store.empty schema).run [.load seed] = store := Store.after_of_perform_ok hstore
  obtain ⟨ops, htrace, hrun⟩ := run_serves (s := ⟨config, store, Rpc.Service.builtIn, startedAt⟩)
    rfl requests store
  have hlater : ∀ op ∈ ops, op.IsTyped schema := by
    have htyped := htrace.isTyped
    rwa [← hseeded, Store.schema_run] at htyped
  refine ⟨[.load seed] ++ ops, ?_, ?_⟩
  · intro op hop
    rcases List.mem_append.mp hop with hop | hop
    · obtain rfl := List.mem_singleton.mp hop
      trivial
    · exact hlater op hop
  · rw [Store.run_append, hseeded]
    exact congrArg Server.store hrun

end Server

/-! ## Answers to queries -/

namespace Rpc

/-- The result of a query whose records have the shape of the type that the call names. -/
inductive ListsShaped (schema : Schema) (call : Request) : Value → Prop where
  | intro {typeName : String} {t : EntityType} {records : List Record}
      (type : call.params[0]? = some (.text typeName)) (known : schema.resolve typeName = .ok t)
      (shaped : ∀ r ∈ records, r.HasShape t) :
      ListsShaped schema call (.array (records.map Record.toValue))

theorem callQuery_eq_ok {s : Store} {params : List Value} {result : Value}
    (h : callQuery s params = .ok result) :
    ∃ typeName c records, params[0]? = some (.text typeName) ∧
      s.query typeName c = .ok records ∧ result = .array (records.map Record.toValue) := by
  obtain ⟨typeName, htype, h⟩ := bind_eq_ok_iff.mp h
  obtain ⟨c, _, h⟩ := bind_eq_ok_iff.mp h
  obtain ⟨records, hquery, h⟩ := bind_eq_ok_iff.mp h
  obtain rfl := Except.ok.inj h
  exact ⟨typeName, c, records, textParam_eq_ok_iff.mp htype, mapError_eq_ok_iff.mp hquery, rfl⟩

end Rpc

namespace Server

variable {s : Server} {r : Http.Request} {user : User} {call : Rpc.Request}

/-- A call to query is answered with what the service makes of its parameters. -/
theorem answer_of_query (hservices : s.services = Rpc.Service.builtIn)
    (hcarries : s.Carries r user call) (hmethod : call.method = "query") :
    (s.answer r).1 = respond ⟨call.id, Rpc.callQuery s.store call.params⟩ := by
  have hservice : s.services.get? call.method = some .query := by
    rw [hservices]
    exact Rpc.Service.get?_builtIn_eq_some_iff.mpr (.inl ⟨hmethod, rfl⟩)
  have hcall : (Rpc.Service.query.call s.store user call.params).map Prod.fst =
      Rpc.callQuery s.store call.params := by
    rw [Rpc.Service.call]
    cases Rpc.callQuery s.store call.params <;> rfl
  rw [answer_of_service hcarries hservice, hcall]

/-- A server answers a query with an error or with records of the shape of the type that was asked
for. -/
theorem query_answer_hasShape {config : Config} {files : Files} {startedAt : String}
    {first : Server} {schema : Schema} (hunshared : schema.Unshared)
    (hschema : Catalog.schema files config.schemaPath = .ok schema)
    (hstart : start config files startedAt = .ok first) (requests : List Http.Request)
    (hcarries : (first.run requests).Carries r user call) (hmethod : call.method = "query") :
    ∃ outcome, ((first.run requests).answer r).1 = respond ⟨call.id, outcome⟩ ∧
      ∀ result, outcome = .ok result → Rpc.ListsShaped schema call result := by
  have hservices : (first.run requests).services = Rpc.Service.builtIn :=
    (services_run first requests).trans (services_of_start hstart)
  refine ⟨_, answer_of_query hservices hcarries hmethod, ?_⟩
  intro result hresult
  obtain ⟨typeName, c, records, htype, hquery, rfl⟩ := Rpc.callQuery_eq_ok hresult
  obtain ⟨ops, htyped, hstore⟩ := exists_typed_run hschema hstart requests
  rw [hstore] at hquery
  obtain ⟨t, ht, hshape⟩ := Store.hasShape_of_query hunshared htyped hquery
  exact .intro htype ht hshape

/-! ## Everything together -/

/-- A store that a typed run has left has a partition for just the names that its types have, and
every record in it has the declared fields of a type of its partition, with `null` for what it was
supplied without, and a key.  Where no partition is shared, every record that answers a query has
the fields of the type that was asked for, and so has every record that any server of the schema
answers a query with. -/
theorem stored_and_answered_shape {schema : Schema} {ops : List Operation}
    (htyped : ∀ op ∈ ops, op.IsTyped schema) :
    (∀ name, ((Store.empty schema).run ops).partitions.contains name = true ↔
      ∃ t ∈ schema.toList, t.partition = name) ∧
    (∀ name key r, (((Store.empty schema).run ops).partition name).get? key = some r →
      ∃ t ∈ schema.toList, t.partition = name ∧
        (∀ field, (∃ v, r.get? field = some v) ↔ field ∈ t.fieldNames) ∧
        (∃ v, r.get? t.keyField = some v ∧ v ≠ .null) ∧
        ∃ op ∈ ops, ∃ given, op.Supplies t key given ∧
          ∀ field ∈ t.fieldNames, field ≠ t.keyField →
            r.get? field = some ((given.get? field).getD .null)) ∧
    (schema.Unshared →
      (∀ typeName c records, ((Store.empty schema).run ops).query typeName c = .ok records →
        ∃ t, schema.resolve typeName = .ok t ∧ ∀ r ∈ records, r.HasShape t) ∧
      ∀ config files startedAt first, Catalog.schema files config.schemaPath = .ok schema →
        start config files startedAt = .ok first → ∀ requests r user call,
          (first.run requests).Carries r user call → call.method = "query" →
            ∃ outcome, ((first.run requests).answer r).1 = respond ⟨call.id, outcome⟩ ∧
              ∀ result, outcome = .ok result → Rpc.ListsShaped schema call result) := by
  refine ⟨?partitions, ?records, ?queries⟩
  case partitions =>
    have hcovers := Store.covers_run (Store.covers_empty schema) ops
    rw [Store.Covers, Store.schema_run] at hcovers
    exact hcovers
  case records =>
    intro name key r hr
    obtain ⟨t, ht, hname, op, hop, given, hgiven, rfl⟩ :=
      Store.exists_supplied_run htyped name key r hr
    have hvalid : t.Valid := Schema.valid_of_mem_toList ht
    have hshape : (Store.loadedRecord t key given).HasShape t :=
      Record.hasShape_loadedRecord hvalid key
    obtain ⟨v, hv⟩ := (hshape.fields t.keyField).mpr hvalid.keyField_mem
    have hkeyed : v ≠ .null := by
      rintro rfl
      exact hshape.keyed hv
    exact ⟨t, ht, hname, hshape.fields, ⟨v, hv, hkeyed⟩, op, hop, given, hgiven,
      fun field hfield hne => Record.get?_loadedRecord_of_ne hvalid hfield hne⟩
  case queries =>
    intro hunshared
    refine ⟨?_, ?_⟩
    · intro typeName c records hquery
      exact Store.hasShape_of_query hunshared htyped hquery
    · intro config files startedAt first hschema hstart requests r user call hcarries hmethod
      exact query_answer_hasShape hunshared hschema hstart requests hcarries hmethod

/-- Tags that come with a colour, which their type does not declare: one is put and leaves again, the
other is in a dataset, without a key of its own. -/
def colouredTags : List Operation :=
  [.put (.ofType Catalog.tag
      ((Record.empty.insert "value" (.number (.ofWord 7))).insert "colour" (.text "red"))),
    .load (Dataset.empty.insert "tags" "zoo" (Record.empty.insert "colour" (.text "red"))),
    .remove "Tag" "7"]

theorem colouredTags_typed : ∀ op ∈ colouredTags, op.IsTyped Catalog.builtIn := by
  simp only [colouredTags, List.forall_mem_cons, List.not_mem_nil, false_implies, implies_true]
  exact ⟨⟨"Tag", _, rfl⟩, trivial, trivial, trivial⟩

theorem colouredTags_shape :
    (∀ op ∈ colouredTags, op.IsTyped Catalog.builtIn) ∧ Catalog.builtIn.Unshared ∧
    (((Store.empty Catalog.builtIn).run colouredTags).partition "tags").keys = ["zoo"] ∧
    (∀ name, ((Store.empty Catalog.builtIn).run colouredTags).partitions.contains name = true ↔
      ∃ t ∈ Catalog.builtIn.toList, t.partition = name) ∧
    (∀ r, (((Store.empty Catalog.builtIn).run colouredTags).partition "tags").get? "zoo" = some r →
      ∃ t ∈ Catalog.builtIn.toList, t.partition = "tags" ∧
        (∀ field, (∃ v, r.get? field = some v) ↔ field ∈ t.fieldNames) ∧
        (∃ v, r.get? t.keyField = some v ∧ v ≠ .null) ∧
        ∃ op ∈ colouredTags, ∃ given, op.Supplies t "zoo" given ∧
          ∀ field ∈ t.fieldNames, field ≠ t.keyField →
            r.get? field = some ((given.get? field).getD .null)) ∧
    (∀ c records, ((Store.empty Catalog.builtIn).run colouredTags).query "Tag" c = .ok records →
      ∃ t, Catalog.builtIn.resolve "Tag" = .ok t ∧ ∀ r ∈ records, r.HasShape t) ∧
    ∀ requests r user call, ((ofDefaults "now").run requests).Carries r user call →
      call.method = "query" →
        ∃ outcome, (((ofDefaults "now").run requests).answer r).1 = respond ⟨call.id, outcome⟩ ∧
          ∀ result, outcome = .ok result → Rpc.ListsShaped Catalog.builtIn call result := by
  obtain ⟨hpartitions, hrecords, hqueries⟩ := stored_and_answered_shape colouredTags_typed
  obtain ⟨hstore, hserver⟩ := hqueries Schema.builtIn_unshared
  exact ⟨colouredTags_typed, Schema.builtIn_unshared, by decide, hpartitions,
    hrecords "tags" "zoo", hstore "Tag",
    hserver .default (fun _ => none) "now" (ofDefaults "now") rfl (start_ofDefaults "now")⟩

end Server

end RecordStore
