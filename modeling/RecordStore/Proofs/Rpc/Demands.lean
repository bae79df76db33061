/-
# RecordStore.Proofs.Rpc.Demands — which calls make up a demand.

A method asks for its parameters by place.  Either they fit and make up one demand on the store
(`exists_demands`, `Demands.unique`), or the call is refused for a parameter and the store is not
asked (`refused_of_no_demand`).  Parameters in later places are not looked at (`call_take`).
-/
import RecordStore.Proofs.Criterion.Grammar
import RecordStore.Proofs.Server.Simulation

namespace RecordStore.Rpc

open Criterion (Fails)

/-- The methods that ask something of the store. -/
def dataMethods : List String := ["query", "put", "remove"]

/-- The methods that a server knows. -/
def methods : List String := dataMethods ++ ["whoAmI"]

/-- The number of parameters that a method looks at. -/
def arity (method : String) : Nat := if method ∈ dataMethods then 2 else 0

/-- The parameters of a call are not those that its method asks for. -/
inductive Request.Misfits (call : Request) : Prop where
  | type (method : call.method ∈ dataMethods)
      (h : ∀ typeName, call.params[0]? ≠ some (.text typeName)) : Misfits call
  | second (method : call.method = "put" ∨ call.method = "remove") (h : call.params[1]? = none) :
      Misfits call
  | criterion {v : Value} (method : call.method = "query") (h : call.params[1]? = some v)
      (hnull : v ≠ .null) (hfails : Fails v) : Misfits call

/-! ## Demands -/

section Demands

variable {call : Request} {d d' : Demand}

/-- What is present and not `null` gives a criterion if the grammar reads it as one. -/
theorem exists_givesCriterion_iff {found : Option Value} :
    (∃ c, GivesCriterion found c) ↔ ∀ v, found = some v → v ≠ .null → ¬ Fails v := by
  constructor
  · rintro ⟨c, hc⟩ v hv hnull hfails
    cases hc with
    | absent => cases hv
    | null => exact hnull (Option.some.inj hv).symm
    | given hread =>
      obtain rfl := Option.some.inj hv
      cases hread.symm.trans ((Criterion.ofValue?_iff _).2.mpr hfails)
  · intro h
    cases found with
    | none => exact ⟨none, .absent⟩
    | some v =>
      by_cases hnull : v = .null
      · rw [hnull]
        exact ⟨none, .null⟩
      · obtain ⟨c, hread⟩ := Option.ne_none_iff_exists'.mp
          fun hnone => h v rfl hnull ((Criterion.ofValue?_iff v).2.mp hnone)
        exact ⟨some c, .given hread⟩

/-- A call makes one demand at most. -/
theorem Demands.unique (h : Demands call d) (h' : Demands call d') : d = d' := by
  have htype : ∀ {typeName typeName' : String}, call.params[0]? = some (.text typeName) →
      call.params[0]? = some (.text typeName') → typeName = typeName' := by
    intro typeName typeName' h h'
    simpa [Value.text] using h.symm.trans h'
  cases h with
  | query method type criteria =>
    cases h' with
    | query _ type' criteria' =>
      have hread : ∀ c, GivesCriterion call.params[1]? c →
          criterionParam call.params 1 "criteria" = .ok c := fun _ => criterionParam_eq_ok_iff.mpr
      rw [htype type type', Except.ok.inj ((hread _ criteria).symm.trans (hread _ criteria'))]
    | put method' => simp [method] at method'
    | remove method' => simp [method] at method'
  | put method type data =>
    cases h' with
    | put _ type' data' => rw [htype type type', Option.some.inj (data.symm.trans data')]
    | query method' => simp [method] at method'
    | remove method' => simp [method] at method'
  | remove method type key =>
    cases h' with
    | remove _ type' key' => rw [htype type type', Option.some.inj (key.symm.trans key')]
    | query method' => simp [method] at method'
    | put method' => simp [method] at method'

theorem Request.Misfits.method_mem (h : call.Misfits) : call.method ∈ dataMethods := by
  cases h with
  | type method => exact method
  | second method => rcases method with method | method <;> simp [dataMethods, method]
  | criterion method => simp [dataMethods, method]

theorem Demands.not_misfits (h : Demands call d) : ¬ call.Misfits := by
  intro hmisfits
  cases hmisfits with
  | type _ hnone =>
    cases h with
    | query _ type | put _ type | remove _ type => exact hnone _ type
  | second method hnone =>
    cases h with
    | query method' => simp [method'] at method
    | put _ _ data => cases hnone.symm.trans data
    | remove _ _ key => cases hnone.symm.trans key
  | criterion method hv hnull hfails =>
    cases h with
    | query _ _ criteria => exact exists_givesCriterion_iff.mp ⟨_, criteria⟩ _ hv hnull hfails
    | put method' => simp [method'] at method
    | remove method' => simp [method'] at method

/-- Parameters that fit make up a demand. -/
theorem exists_demands (hmethod : call.method ∈ dataMethods) (h : ¬ call.Misfits) :
    ∃ d, Demands call d := by
  obtain ⟨typeName, htype⟩ : ∃ typeName, call.params[0]? = some (.text typeName) := by
    by_contra hnone
    exact h (.type hmethod (not_exists.mp hnone))
  have hmethod : call.method = "query" ∨ call.method = "put" ∨ call.method = "remove" := by
    simpa [dataMethods] using hmethod
  rcases hmethod with hquery | hwrite
  · obtain ⟨c, hc⟩ := exists_givesCriterion_iff.mpr
      fun v hv hnull hfails => h (.criterion hquery hv hnull hfails)
    exact ⟨_, .query hquery htype hc⟩
  · obtain ⟨v, hv⟩ := Option.ne_none_iff_exists'.mp fun hnone => h (.second hwrite hnone)
    rcases hwrite with hput | hremove
    · exact ⟨_, .put hput htype hv⟩
    · exact ⟨_, .remove hremove htype hv⟩

end Demands

/-! ## Reading parameters -/

section Parameters

variable {params : List Value} {place : Nat} {name : String} {fault : CallFault}

theorem eq_badParameter_of_param (h : param params place name = .error fault) :
    ∃ cause, fault = .badParameter cause := by
  unfold param at h
  split at h <;> cases h
  exact ⟨_, rfl⟩

theorem eq_badParameter_of_textParam (h : textParam params place name = .error fault) :
    ∃ cause, fault = .badParameter cause := by
  unfold textParam at h
  rcases bind_eq_error_iff.mp h with h | ⟨v, _, h⟩
  · exact eq_badParameter_of_param h
  · split at h <;> cases h
    exact ⟨_, rfl⟩

theorem eq_badParameter_of_criterionParam (h : criterionParam params place name = .error fault) :
    ∃ cause, fault = .badParameter cause := by
  unfold criterionParam at h
  split at h
  · cases h
  · split at h
    · cases h
    · split at h <;> cases h
      exact ⟨_, rfl⟩

theorem param_take {n : Nat} (h : place < n) :
    param (params.take n) place name = param params place name := by
  rw [param, param, List.getElem?_take_of_lt h]

theorem textParam_take {n : Nat} (h : place < n) :
    textParam (params.take n) place name = textParam params place name := by
  rw [textParam, textParam, param_take h]

theorem criterionParam_take {n : Nat} (h : place < n) :
    criterionParam (params.take n) place name = criterionParam params place name := by
  rw [criterionParam, criterionParam, List.getElem?_take_of_lt h]

end Parameters

/-! ## Services -/

section Services

variable {s : Store} {user : User} {call : Request} {service : Service}

/-- Two steps are refused for a parameter where the first is not refused for anything else and the
second is not reached or refused so. -/
theorem badParameter_bind {α β : Type} {x : Except CallFault α} {f : α → Except CallFault β}
    (hfirst : ∀ fault, x = .error fault → ∃ cause, fault = .badParameter cause)
    (hrest : ∀ a, x = .ok a → ∃ cause, f a = .error (.badParameter cause)) :
    ∃ cause, x >>= f = .error (.badParameter cause) := by
  cases x with
  | error fault =>
    obtain ⟨cause, rfl⟩ := hfirst fault rfl
    exact ⟨cause, rfl⟩
  | ok a => exact hrest a rfl

/-- A call of a data service that makes no demand is refused for a parameter. -/
theorem refused_of_no_demand (s : Store) (user : User)
    (hservice : Service.builtIn.get? call.method = some service)
    (hmethod : call.method ∈ dataMethods) (hnone : ∀ d, ¬ Demands call d) :
    ∃ cause, service.call s user call.params = .error (.badParameter cause) := by
  -- parameters that can all be read would make up a demand
  rcases Service.get?_builtIn_eq_some_iff.mp hservice with
    ⟨hquery, rfl⟩ | ⟨hput, rfl⟩ | ⟨hremove, rfl⟩ | ⟨hwhoAmI, _⟩
  · have hrefused : ∃ cause, callQuery s call.params = .error (.badParameter cause) := by
      refine badParameter_bind (fun _ => eq_badParameter_of_textParam) fun typeName htype =>
        badParameter_bind (fun _ => eq_badParameter_of_criterionParam) fun c hc => ?_
      exact absurd (.query hquery (textParam_eq_ok_iff.mp htype) (criterionParam_eq_ok_iff.mp hc))
        (hnone _)
    obtain ⟨cause, hrefused⟩ := hrefused
    rw [Service.call, hrefused]
    exact ⟨cause, rfl⟩
  · refine badParameter_bind (fun _ => eq_badParameter_of_textParam) fun typeName htype =>
      badParameter_bind (fun _ => eq_badParameter_of_param) fun v hv => ?_
    exact absurd (.put hput (textParam_eq_ok_iff.mp htype) (param_eq_ok_iff.mp hv)) (hnone _)
  · refine badParameter_bind (fun _ => eq_badParameter_of_textParam) fun typeName htype =>
      badParameter_bind (fun _ => eq_badParameter_of_param) fun v hv => ?_
    exact absurd (.remove hremove (textParam_eq_ok_iff.mp htype) (param_eq_ok_iff.mp hv)) (hnone _)
  · simp [hwhoAmI, dataMethods] at hmethod

theorem exists_service_iff {method : String} :
    (∃ service, Service.builtIn.get? method = some service) ↔ method ∈ methods := by
  simp only [Service.get?_builtIn_eq_some_iff, methods, dataMethods]
  grind

/-- A method of the server that asks nothing of the store tells who the user is. -/
theorem eq_whoAmI_of_not_mem (hservice : Service.builtIn.get? call.method = some service)
    (h : call.method ∉ dataMethods) : service = .whoAmI := by
  simp only [dataMethods] at h
  have hknown := Service.get?_builtIn_eq_some_iff.mp hservice
  grind

/-- A service looks at no more parameters than its method has. -/
theorem call_take (hservice : Service.builtIn.get? call.method = some service) :
    service.call s user (call.params.take (arity call.method)) =
      service.call s user call.params := by
  by_cases hmethod : call.method ∈ dataMethods
  · have hfirst : 0 < 2 := by decide
    have hsecond : 1 < 2 := by decide
    rw [arity, if_pos hmethod]
    rcases Service.get?_builtIn_eq_some_iff.mp hservice with
      ⟨_, rfl⟩ | ⟨_, rfl⟩ | ⟨_, rfl⟩ | ⟨_, rfl⟩
    · simp only [Service.call, callQuery, textParam_take hfirst, criterionParam_take hsecond]
    · simp only [Service.call, callPut, textParam_take hfirst, param_take hsecond]
    · simp only [Service.call, callRemove, textParam_take hfirst, param_take hsecond]
    · rfl
  · rw [eq_whoAmI_of_not_mem hservice hmethod]
    rfl

end Services

end RecordStore.Rpc
