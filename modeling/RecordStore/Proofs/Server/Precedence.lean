/-
# RecordStore.Proofs.Server.Precedence — which error a call is answered with.

A call can be wrong in several ways at once.  What a client sees of it, where the error comes from
and its code, is decided by a list of rules, of which the first that applies counts (`Decides`): the
namespace, the method, the parameters, and then what the store is asked for (`precedence`).  The
rules speak of the call and of the declared types alone, so one call has one verdict as long as a
server runs.

That the rules decide is proved from the store upwards.  `decides_of_meets` is the answer of a store
to a demand, and `decides_perform` any call to a server with the services of its start, which is
refused for a parameter where it makes no demand.
-/
import RecordStore.Proofs.Criterion.FirstFault
import RecordStore.Proofs.Rpc.Demands
import RecordStore.Proofs.Store.Putting

namespace RecordStore

/-! ## Keys and objects -/

namespace Value

/-- A value of a shape that no key has. -/
def NoKeyShape (v : Value) : Prop := v.shape = .bool ∨ v.shape = .array ∨ v.shape = .object

/-- A key that writes a number after which there is no room for generated keys. -/
def LeavesNoRoom (v : Value) : Prop :=
  ∃ key number, v.KeyText key ∧ KeyCounter.number? key = some number ∧ 2 ^ 64 - 2 ≤ number.toNat

end Value

theorem Record.ofValue_eq_ok_iff {v : Value} {r : Record} :
    ofValue v = .ok r ↔ v = .object r.fields := by
  constructor
  · intro h
    obtain ⟨j, hj⟩ := v
    cases j with
    | object members =>
      obtain ⟨fields, hfields⟩ := Value.exists_eq_object hj
      rw [hfields] at h ⊢
      cases h.symm.trans (ofValue_toValue ⟨fields⟩)
      rfl
    | null | bool _ | number _ | text _ | array _ => cases h
  · rintro rfl
    exact ofValue_toValue r

theorem Record.ofValue_eq_error_iff {v : Value} {cause : Error} :
    ofValue v = .error cause ↔
      (∀ fields, v ≠ .object fields) ∧ cause = .invalidRecord (.notObject v.shape) := by
  by_cases hobject : ∃ fields, v = .object fields
  · obtain ⟨fields, rfl⟩ := hobject
    have hok : ofValue (.object fields) = .ok ⟨fields⟩ := ofValue_eq_ok_iff.mpr rfl
    rw [hok]
    exact iff_of_false (by simp) fun h => h.1 fields rfl
  · have hfields : v.fields? = none := by
      obtain ⟨j, hj⟩ := v
      cases j with
      | object members => exact absurd (Value.exists_eq_object hj) hobject
      | null | bool _ | number _ | text _ | array _ => rfl
    rw [ofValue, hfields]
    simp [not_exists.mp hobject, eq_comm]

theorem Entity.ofTypeNamed_eq_error_iff {s : Schema} {name : String} {data : Record}
    {cause : Error} :
    ofTypeNamed s name data = .error cause ↔
      s.types.get? name = none ∧ cause = .unknownType name := by
  rw [← Schema.resolve_eq_error_iff, ofTypeNamed]
  cases s.resolve name with
  | ok t => exact iff_of_false (by rintro ⟨⟩) (by rintro ⟨⟩)
  | error other =>
    constructor
    · rintro ⟨⟩
      rfl
    · rintro ⟨⟩
      rfl

namespace Rpc

open Criterion (FirstFault)

/-! ## Rules -/

/-- What a client sees of the outcome of a call: that there is a result, or the origin and the code
of an error. -/
inductive Verdict where
  | result
  | error (origin code : UInt64)
deriving DecidableEq

/-- A rule: when it applies, and the verdict that it gives. -/
structure Rule where
  applies : Prop
  verdict : Verdict

/-- The first rule of a list that applies gives the verdict.  Where none does, there is a result. -/
inductive Decides : List Rule → Verdict → Prop where
  | here {applies : Prop} {verdict : Verdict} {rest : List Rule} (h : applies) :
    Decides (⟨applies, verdict⟩ :: rest) verdict
  | later {rule : Rule} {rest : List Rule} {verdict : Verdict} (h : ¬ rule.applies)
      (hrest : Decides rest verdict) : Decides (rule :: rest) verdict
  | none : Decides [] .result

theorem Decides.unique {rules : List Rule} {v w : Verdict} (hv : Decides rules v)
    (hw : Decides rules w) : v = w := by
  induction hv with
  | here h =>
    cases hw with
    | here _ => rfl
    | later hnot _ => exact absurd h hnot
  | later hnot _ ih =>
    cases hw with
    | here h => exact absurd h hnot
    | later _ hrest => exact ih hrest
  | none =>
    cases hw
    rfl

/-- Where no rule applies, there is a result. -/
theorem decides_result {rules : List Rule} (h : ∀ rule ∈ rules, ¬ rule.applies) :
    Decides rules .result := by
  induction rules with
  | nil => exact .none
  | cons rule rest ih =>
    obtain ⟨hfirst, hrest⟩ := List.forall_mem_cons.mp h
    exact .later hfirst (ih hrest)

/-- The verdict on an outcome. -/
def Verdict.of {α : Type} : Except CallFault α → Verdict
  | .ok _ => .result
  | .error fault => .error fault.origin fault.code

theorem Verdict.of_map {α β : Type} (x : Except CallFault α) (f : α → β) : of (x.map f) = of x := by
  cases x <;> rfl

theorem Verdict.of_asked_map {α β : Type} (x : Except Error α) (f : α → β) :
    of (asked (x.map f)) = of (asked x) := by
  cases x <;> rfl

/-! ## What is wrong with a call -/

namespace Demand

/-- The name of the type that the store is asked about. -/
def typeName : Demand → String
  | query typeName _ => typeName
  | put typeName _ => typeName
  | remove typeName _ => typeName

/-- What is to be put is no object. -/
def NoObject : Demand → Prop
  | put _ v => ∀ fields, v ≠ .object fields
  | _ => False

/-- No type of the name is declared. -/
def NoType (schema : Schema) (d : Demand) : Prop := schema.types.get? d.typeName = none

/-- The first node of the criterion that the type does not admit has this fault. -/
def HasFault (schema : Schema) (cause : Error) : Demand → Prop
  | query typeName (some c) =>
    ∃ t, schema.types.get? typeName = some t ∧ FirstFault t c.nodes cause
  | _ => False

/-- The first fault of the criterion is a field that the type does not declare. -/
def NamesNoField (schema : Schema) (d : Demand) : Prop :=
  ∃ field typeName, d.HasFault schema (.unknownField field typeName)

/-- The first fault of the criterion is another one. -/
def Untestable (schema : Schema) (d : Demand) : Prop :=
  ∃ fault, d.HasFault schema (.unsupportedCriterion fault)

/-- The key is of a shape that no key has, or one to be put that leaves no room. -/
def NoKey (schema : Schema) : Demand → Prop
  | put typeName v => ∃ t fields key, schema.types.get? typeName = some t ∧ v = .object fields ∧
      fields.get? t.keyField = some key ∧ (key.NoKeyShape ∨ key.LeavesNoRoom)
  | remove _ key => key.NoKeyShape
  | query _ _ => False

end Demand

/-- A call makes a demand of this kind. -/
def Request.Asks (call : Request) (P : Demand → Prop) : Prop := ∃ d, Demands call d ∧ P d

theorem Demands.asks_iff {call : Request} {d : Demand} (h : Demands call d) {P : Demand → Prop} :
    call.Asks P ↔ P d := by
  constructor
  · rintro ⟨d', hd', hP⟩
    rwa [h.unique hd']
  · exact fun hP => ⟨d, h, hP⟩

/-! ## Precedence -/

/-- The rules of a demand on a store. -/
def Demand.precedence (schema : Schema) (d : Demand) : List Rule :=
  [⟨d.NoObject, .error 2 4⟩, ⟨d.NoType schema, .error 2 1⟩, ⟨d.NamesNoField schema, .error 2 2⟩,
    ⟨d.Untestable schema, .error 2 3⟩, ⟨d.NoKey schema, .error 2 4⟩]

/-- The rules of a call to a server of a namespace, whose store has a schema. -/
def precedence (serviceName : String) (schema : Schema) (call : Request) : List Rule :=
  [⟨call.service ≠ serviceName, .error 1 2⟩,
    ⟨call.method ∉ methods, .error 1 4⟩,
    ⟨call.Misfits, .error 1 5⟩,
    ⟨call.Asks Demand.NoObject, .error 2 4⟩,
    ⟨call.Asks (Demand.NoType schema), .error 2 1⟩,
    ⟨call.Asks (Demand.NamesNoField schema), .error 2 2⟩,
    ⟨call.Asks (Demand.Untestable schema), .error 2 3⟩,
    ⟨call.Asks (Demand.NoKey schema), .error 2 4⟩]

/-! ## The answer of a store -/

section Store

variable {s : Store} {schema : Schema} {d : Demand} {answer : Except Error Value}
  {ops : List Operation} {typeName : String} {t : EntityType}

/-- An object is put under a key of its type unless the key is refused. -/
theorem noKey_put_iff {fields : NameMap Value} (counter : KeyCounter)
    (ht : schema.types.get? typeName = some t) :
    (Demand.put typeName (.object fields)).NoKey schema ↔
      ∃ fault, Store.assignKey counter (.ofType t ⟨fields⟩) = .error (.invalidRecord fault) := by
  simp only [Store.assignKey_eq_iff]
  constructor
  · rintro ⟨t', fields', key, ht', hobject, hkey, hrefused⟩
    obtain rfl := Option.some.inj (ht.symm.trans ht')
    obtain rfl := Value.object_inj.mp hobject
    rcases hrefused with hshape | ⟨text, number, htext, hnumber, hlarge⟩
    · exact ⟨_, .shape hkey hshape⟩
    · exact ⟨_, .noRoom hkey htext hnumber hlarge⟩
  · rintro ⟨fault, h⟩
    cases h with
    | shape hfield hshape => exact ⟨t, fields, _, ht, rfl, hfield, .inl hshape⟩
    | noRoom hfield htext hnumber hlarge =>
      exact ⟨t, fields, _, ht, rfl, hfield, .inr ⟨_, _, htext, hnumber, hlarge⟩⟩

/-- A criterion that does not compile has a first fault of one of two kinds. -/
theorem exists_eq_of_firstFault {nodes : List Criterion} {cause : Error}
    (h : FirstFault t nodes cause) :
    (∃ field, cause = .unknownField field t.name) ∨
      ∃ fault, cause = .unsupportedCriterion fault := by
  induction h with
  | here h _ =>
    cases h with
    | undeclared => exact .inl ⟨_, rfl⟩
    | foreign | untestable | notNumeric => exact .inr ⟨_, rfl⟩
  | later _ _ ih => exact ih

theorem hasFault_query_iff {c : Criterion} {cause : Error}
    (ht : schema.types.get? typeName = some t) :
    (Demand.query typeName (some c)).HasFault schema cause ↔
      Predicate.compile t c = .error cause := by
  simp [Demand.HasFault, ht, Predicate.compile_eq_error_iff]

/-- What is refused with its type, and otherwise for what the other rules say, follows the rules. -/
theorem decides_of_resolve {α : Type} {x : Except Error α} (name : String)
    (hname : d.typeName = name) (hobject : ¬ d.NoObject)
    (hunknown : ∀ cause, s.schema.resolve name = .error cause → x = .error cause)
    (hknown : ∀ t, s.schema.resolve name = .ok t →
      Decides (d.precedence s.schema) (.of (asked x))) :
    Decides (d.precedence s.schema) (.of (asked x)) := by
  cases ht : s.schema.resolve name with
  | ok t => exact hknown t ht
  | error cause =>
    rw [hunknown cause ht]
    obtain ⟨hnone, rfl⟩ := Schema.resolve_eq_error_iff.mp ht
    rw [← hname] at hnone
    exact .later hobject (.here hnone)

/-- Once the type is known and nothing is wrong with a criterion, the key decides. -/
theorem decides_of_key {verdict : Verdict} (hobject : ¬ d.NoObject)
    (ht : schema.types.get? d.typeName = some t) (hfault : ∀ cause, ¬ d.HasFault schema cause)
    (hkey : Decides [⟨d.NoKey schema, .error 2 4⟩] verdict) :
    Decides (d.precedence schema) verdict := by
  have htype : ¬ d.NoType schema := by simp [Demand.NoType, ht]
  have hfield : ¬ d.NamesNoField schema := fun ⟨_, _, h⟩ => hfault _ h
  have htestable : ¬ d.Untestable schema := fun ⟨_, h⟩ => hfault _ h
  exact .later hobject (.later htype (.later hfield (.later htestable hkey)))

/-- A criterion that is compiled for its type is refused for its first fault, of whichever kind. -/
theorem decides_compile {c : Criterion} (ht : schema.types.get? typeName = some t) :
    Decides ((Demand.query typeName (some c)).precedence schema)
      (.of (asked (Predicate.compile t c))) := by
  have hfault : ∀ cause, (Demand.query typeName (some c)).HasFault schema cause ↔
      Predicate.compile t c = .error cause := fun _ => hasFault_query_iff ht
  cases hcompile : Predicate.compile t c with
  | ok p =>
    refine decides_of_key not_false ht (fun cause h => ?_) (.later not_false .none)
    cases hcompile.symm.trans ((hfault cause).mp h)
  | error cause =>
    have htype : ¬ (Demand.query typeName (some c)).NoType schema := by
      simp [Demand.NoType, Demand.typeName, ht]
    refine .later not_false (.later htype ?_)
    -- there is one first fault, so a fault of one kind excludes the other
    rcases exists_eq_of_firstFault ((Predicate.compile_eq_error_iff c cause).mp hcompile) with
      ⟨field, rfl⟩ | ⟨fault, rfl⟩
    · exact .here ⟨field, t.name, (hfault _).mpr hcompile⟩
    · refine .later ?_ (.here ⟨fault, (hfault _).mpr hcompile⟩)
      rintro ⟨field, name, h⟩
      cases hcompile.symm.trans ((hfault _).mp h)

/-- A query is refused for its type, and then for its criterion. -/
theorem decides_query (c : Option Criterion) :
    Decides ((Demand.query typeName c).precedence s.schema) (.of (asked (s.query typeName c))) := by
  refine decides_of_resolve typeName rfl not_false (fun cause ht => ?_) fun t ht => ?_
  · rw [Store.query, ht]
    rfl
  · have hknown : s.schema.types.get? typeName = some t := Schema.resolve_eq_ok_iff.mp ht
    rw [Store.query_of_resolve ht, Verdict.of_asked_map]
    cases c with
    | none => exact decides_of_key not_false hknown (fun _ => not_false) (.later not_false .none)
    | some c => exact decides_compile hknown

/-- An object is put under its type unless its key is refused. -/
theorem decides_put {data : Record} (ht : s.schema.resolve typeName = .ok t) :
    Decides ((Demand.put typeName (.object data.fields)).precedence s.schema)
      (.of (asked (s.put (.ofType t data)))) := by
  have hknown := Schema.resolve_eq_ok_iff.mp ht
  refine decides_of_key (fun h => h data.fields rfl) hknown (fun _ => not_false) ?_
  cases hput : s.put (.ofType t data) with
  | error cause =>
    rcases Store.put_eq_error_iff.mp hput with hname | ⟨_, _, hassign⟩
    · have hresolved : s.schema.resolve t.name = .ok t := by rwa [Schema.name_of_resolve ht]
      cases hresolved.symm.trans hname
    · obtain ⟨fault, rfl⟩ : ∃ fault, cause = .invalidRecord fault := by
        cases Store.assignKey_eq_iff.mp hassign with
        | shape | noRoom => exact ⟨_, rfl⟩
      exact .here ((noKey_put_iff s.counter hknown).mpr ⟨fault, hassign⟩)
  | ok saved =>
    obtain ⟨_, counter, _, hassign, _⟩ := Store.put_eq_ok_iff.mp hput
    refine .later ?_ .none
    show ¬ (Demand.put typeName (.object data.fields)).NoKey s.schema
    rw [noKey_put_iff s.counter hknown]
    rintro ⟨fault, h⟩
    cases hassign.symm.trans h

/-- What is to be removed has to be of a known type, and then under a key or under none. -/
theorem decides_remove {key : Value} {found : Option String}
    (ht : s.schema.resolve typeName = .ok t) (hkey : keyOfValue (some key) = .ok found) :
    Decides ((Demand.remove typeName key).precedence s.schema) .result := by
  refine decides_of_key not_false (Schema.resolve_eq_ok_iff.mp ht) (fun _ => not_false)
    (.later ?_ .none)
  intro hshape
  cases hkey.symm.trans (keyOfValue_eq_error_iff.mpr ⟨key, rfl, hshape, rfl⟩)

/-- The rules decide what a store answers to a demand. -/
theorem decides_of_meets (h : s.Meets d answer ops) :
    Decides (d.precedence s.schema) (.of (asked answer)) := by
  cases h with
  | query typeName c =>
    rw [Verdict.of_asked_map]
    exact decides_query c
  | @put typeName v e he =>
    rw [Verdict.of_asked_map]
    obtain ⟨data, hdata, htyped⟩ := bind_eq_ok_iff.mp he
    obtain rfl := Record.ofValue_eq_ok_iff.mp hdata
    obtain ⟨t, ht, rfl⟩ := Entity.ofTypeNamed_eq_ok_iff.mp htyped
    exact decides_put ht
  | @putOther typeName v cause he =>
    rcases bind_eq_error_iff.mp he with hdata | ⟨data, hdata, htyped⟩
    · obtain ⟨hobject, rfl⟩ := Record.ofValue_eq_error_iff.mp hdata
      exact .here hobject
    · obtain rfl := Record.ofValue_eq_ok_iff.mp hdata
      obtain ⟨hnone, rfl⟩ := Entity.ofTypeNamed_eq_error_iff.mp htyped
      exact .later (fun h => h data.fields rfl) (.here hnone)
  | @remove typeName key text htext =>
    rw [Verdict.of_asked_map]
    refine decides_of_resolve typeName rfl not_false (fun _ => Store.remove_eq_error_iff.mpr)
      fun t ht => ?_
    rw [Store.remove_eq_ok_iff.mpr ⟨t, ht, rfl⟩]
    exact decides_remove ht (keyOfValue_eq_some_iff.mpr ⟨key, rfl, htext⟩)
  | removeNothing typeName =>
    rw [Verdict.of_asked_map]
    refine decides_of_resolve typeName rfl not_false (fun _ => id) fun t ht => ?_
    rw [ht]
    exact decides_remove ht (keyOfValue_eq_none_iff.mpr (.inr rfl))
  | @removeOther typeName key cause hkey =>
    refine decides_of_resolve typeName rfl not_false (fun other ht => ?_) fun t ht => ?_
    · rw [ht]
      rfl
    · obtain ⟨_, ⟨⟩, hshape, rfl⟩ := keyOfValue_eq_error_iff.mp hkey
      rw [ht]
      exact decides_of_key not_false (Schema.resolve_eq_ok_iff.mp ht) (fun _ => not_false)
        (.here hshape)

end Store

end Rpc

/-! ## The reply -/

namespace Server

open Rpc

variable {s : Server} {user : User} {call : Rpc.Request}

theorem get?_of_service {service : Service} (h : s.service call = .ok service) :
    s.services.get? call.method = some service := by
  unfold Server.service at h
  split at h
  · cases h
  · split at h
    · rename_i found hfound
      rw [hfound, Except.ok.inj h]
    · cases h

theorem verdict_reply (s : Server) (user : User) (call : Rpc.Request) :
    Verdict.of (s.reply user call).1.outcome = Verdict.of (s.perform user call) := by
  rw [reply]
  cases s.perform user call <;> rfl

/-- The rules decide every call to a server with the services of its start. -/
theorem decides_perform (hservices : s.services = Service.builtIn) :
    Decides (precedence s.config.serviceName s.store.schema call)
      (.of (s.perform user call)) := by
  by_cases hname : call.service = s.config.serviceName
  case neg =>
    rw [perform_of_service_ne hname]
    exact .here hname
  rw [perform_of_service_eq hname, hservices]
  refine .later (not_not_intro hname) ?_
  cases hservice : Service.builtIn.get? call.method with
  | none =>
    refine .here fun hmethod => ?_
    obtain ⟨service, hfound⟩ := exists_service_iff.mpr hmethod
    cases hservice.symm.trans hfound
  | some service =>
    refine .later (not_not_intro (exists_service_iff.mp ⟨service, hservice⟩)) ?_
    show Decides _ (.of (service.call s.store user call.params))
    by_cases hdemand : ∃ d, Demands call d
    · obtain ⟨d, hd⟩ := hdemand
      obtain ⟨service', hservice', hfulfils⟩ := hd.exists_service
      obtain rfl := Option.some.inj (hservice.symm.trans hservice')
      obtain ⟨answer, ops, hmeets, hcall⟩ := hfulfils s.store user
      rw [hcall, Verdict.of_asked_map]
      refine .later hd.not_misfits ?_
      simp only [hd.asks_iff]
      exact decides_of_meets hmeets
    · by_cases hmethod : call.method ∈ dataMethods
      · have hmisfits : call.Misfits := by
          by_contra hfits
          exact hdemand (exists_demands hmethod hfits)
        obtain ⟨cause, hrefused⟩ := refused_of_no_demand s.store user hservice hmethod
          (not_exists.mp hdemand)
        rw [hrefused]
        exact .here hmisfits
      · rw [eq_whoAmI_of_not_mem hservice hmethod]
        have hfits : ¬ call.Misfits := fun h => hmethod h.method_mem
        refine decides_result ?_
        simp [Request.Asks, not_exists.mp hdemand, hfits]

/-- A call is replied to as it would be without the parameters that its method does not have. -/
theorem reply_take (hservices : s.services = Service.builtIn) :
    s.reply user { call with params := call.params.take (arity call.method) } =
      s.reply user call := by
  have hperform : s.perform user { call with params := call.params.take (arity call.method) } =
      s.perform user call := by
    show (s.service call >>= fun service =>
      service.call s.store user (call.params.take (arity call.method))) = _
    rw [perform]
    cases hservice : s.service call with
    | error fault => rfl
    | ok service =>
      have hfound := get?_of_service hservice
      rw [hservices] at hfound
      exact call_take hfound
  rw [reply, reply, hperform]

/-- Every user is told who it is, whatever the parameters and the records are. -/
theorem reply_whoAmI (hservices : s.services = Service.builtIn)
    (hname : call.service = s.config.serviceName) (hmethod : call.method = "whoAmI") :
    s.reply user call = (⟨call.id, .ok (callWhoAmI s.store user)⟩, s) := by
  have hservice : Service.builtIn.get? call.method = some .whoAmI :=
    Service.get?_builtIn_eq_some_iff.mpr (.inr (.inr (.inr ⟨hmethod, rfl⟩)))
  have hperform : s.perform user call = .ok (callWhoAmI s.store user, s.store) := by
    rw [perform_of_service_eq hname, hservices, hservice]
    rfl
  exact reply_of_perform_ok hperform

theorem schema_run (hservices : s.services = Service.builtIn) (requests : List Http.Request) :
    (s.run requests).store.schema = s.store.schema := by
  obtain ⟨ops, _, hrun⟩ := run_serves hservices requests s.store
  exact (congrArg (fun s' => s'.store.schema) hrun).trans (Store.schema_run s.store ops)

/-- A list is put under the name of no type, with a parameter too many. -/
def wrongPut : Rpc.Request :=
  ⟨.number (.ofWord 7), "rpcsim.features", "put", [.text "Tags", .array [], .bool true]⟩

/-- The verdicts on calls each of which is right where the one before it is wrong. -/
example :
    [(⟨.null, "features", "get", []⟩ : Rpc.Request),
      ⟨.null, "rpcsim.features", "get", []⟩,
      ⟨.null, "rpcsim.features", "put", [.text "Tags"]⟩,
      ⟨.null, "rpcsim.features", "put", [.text "Tags", .array []]⟩,
      ⟨.null, "rpcsim.features", "put", [.text "Tags", .object (.ofList [("value", .bool true)])]⟩,
      ⟨.null, "rpcsim.features", "put", [.text "Tag", .object (.ofList [("value", .bool true)])]⟩,
      ⟨.null, "rpcsim.features", "put", [.text "Tag", .object .empty]⟩].map (fun call =>
        Verdict.of ((ofDefaults "now").reply (.active "anonymous") call).1.outcome) =
      [.error 1 2, .error 1 4, .error 1 5, .error 2 4, .error 2 1, .error 2 4, .result] := by
  decide +kernel

end Server

end RecordStore
