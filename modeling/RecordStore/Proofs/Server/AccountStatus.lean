/-
# RecordStore.Proofs.Server.AccountStatus — what a user is told of the own account.

The state of an account stands in the record of the first visitor with the email address of the user.
There are two ways to it.  A query tests the number that the record holds, as a double, against the
number of a state (`Record.Shows`); `whoAmI` takes the number of the record for that of a state if
it is a whole number.  Where no state is found the account counts as active.

The two agree on whole numbers and on everything that is no number, and so they do on the doubles that
are no number of a state.  A double equal to the number of a state other than `active` is found by the
query and not by `whoAmI`, which takes the account for active (`whoAmI_agrees_unless_double`,
`pending_as_double_is_active`).
-/
import RecordStore.Proofs.Criterion.Reading
import RecordStore.Proofs.Number.Whole
import RecordStore.Proofs.Server.Credentials
import RecordStore.Proofs.Server.Shape

namespace RecordStore

theorem eq_ok_of_toOption {ε α : Type} {e : Except ε α} {a : α} (h : e.toOption = some a) :
    e = .ok a := by
  cases e with
  | error cause => cases h
  | ok found => exact congrArg Except.ok (Option.some.inj h)

/-! ## The state that a record shows -/

namespace Status

/-- A number stands for the state of which it is the number, and for no other. -/
theorem ofNumber?_eq_some_iff {n : Int} {status : Status} :
    ofNumber? n = some status ↔ n = status.number.toNat := by
  have hbanned : (banned.number.toNat : Int) = 0 := rfl
  have hpending : (pending.number.toNat : Int) = 1 := rfl
  have hactive : (active.number.toNat : Int) = 2 := rfl
  unfold ofNumber?
  cases status <;> grind

/-- The test of a visitor's record for a state. -/
def test (status : Status) : Criterion := .test "status" (.number (.ofWord status.number))

/-- The double of the number of a state. -/
def double (status : Status) : Number.Binary64 := .ofInt status.number.toNat

theorem natAbs_number_lt (status : Status) : (status.number.toNat : Int).natAbs < 2 ^ 53 := by
  cases status <;> decide

theorem number_inj {a b : Status} (h : (a.number.toNat : Int) = b.number.toNat) : a = b := by
  cases a <;> cases b <;> first | rfl | cases h

theorem compile_test (status : Status) :
    Predicate.compile Catalog.user status.test = .ok (.numberIs "status" status.double) :=
  Predicate.compile_test_eq_ok_iff.mpr ⟨.number, rfl, rfl⟩

end Status

namespace Record

variable {visitor : Record} {status other : Status}

/-- A query that tests the records of users for a state admits a record. -/
def Shows (visitor : Record) (status : Status) : Prop :=
  ∃ p, Predicate.compile Catalog.user status.test = .ok p ∧ p.matchesRecord visitor = true

theorem shows_iff :
    visitor.Shows status ↔ ∃ n : Json.Number, visitor.get? "status" = some (.number n) ∧
      n.toBinary64.equal status.double = true := by
  have hshows : visitor.Shows status ↔
      (Predicate.numberIs "status" status.double).matchesRecord visitor = true := by
    rw [Shows, status.compile_test]
    simp
  rw [hshows, Predicate.matchesRecord_numberIs]
  constructor
  · rintro ⟨stored, hstored, n, hjson, hequal⟩
    obtain rfl : stored = .number n := Value.ext hjson
    exact ⟨n, hstored, hequal⟩
  · rintro ⟨n, hstored, hequal⟩
    exact ⟨.number n, hstored, n, rfl, hequal⟩

/-- A record shows at most one state. -/
theorem Shows.unique (h : visitor.Shows status) (hother : visitor.Shows other) : status = other := by
  obtain ⟨n, hn, hequal⟩ := shows_iff.mp h
  obtain ⟨m, hm, hequal'⟩ := shows_iff.mp hother
  cases hn.symm.trans hm
  have hdoubles := Number.Binary64.equal_of_equal hequal hequal'
  exact Status.number_inj ((Number.Binary64.equal_ofInt_iff other.natAbs_number_lt).mp hdoubles)

/-- A record with a whole number shows the state of this number. -/
theorem shows_iff_of_integer {n : Int} {fits : Json.FitsWord n}
    (h : visitor.get? "status" = some (.number (.integer n fits))) :
    visitor.Shows status ↔ n = status.number.toNat := by
  rw [shows_iff, ← Number.Binary64.equal_ofInt_iff status.natAbs_number_lt, h]
  constructor
  · rintro ⟨_, hn, hequal⟩
    cases hn
    exact hequal
  · intro hequal
    exact ⟨_, rfl, hequal⟩

end Record

/-- The state of an account that queries find: the one that the first of the user's visitors shows,
and `active` if there is none. -/
inductive Status.Found (visitors : List Record) : Status → Prop where
  | shown {visitor : Record} {status : Status} (first : visitors.head? = some visitor)
      (h : visitor.Shows status) : Found visitors status
  | assumed (h : ∀ visitor status, visitors.head? = some visitor → ¬ visitor.Shows status) :
      Found visitors .active

/-- The first of some visitors holds the number of a state other than `active`, but as a double. -/
def Status.HeldAsDouble (visitors : List Record) : Prop :=
  ∃ visitor x finite status, visitors.head? = some visitor ∧
    visitor.get? "status" = some (.number (.float x finite)) ∧ status ≠ .active ∧
    visitor.Shows status

/-! ## Asking -/

namespace Rpc

/-- The answer to a user who asks for the own account. -/
def identity (id : String) (status : Status) : Value :=
  .object (.ofList [("user", .text id), ("status", .number (.ofWord status.number)),
    ("statusName", .text status.name)])

variable {s : Store} {email : String} {visitors : List Record}

theorem visitorStatus?_of_query
    (h : s.query "User" (some (.test "email" (.text email))) = .ok visitors) (status : Status) :
    visitorStatus? s email = some status ↔ ∃ visitor fits, visitors.head? = some visitor ∧
      visitor.get? "status" = some (.number (.integer status.number.toNat fits)) := by
  rw [visitorStatus?, h]
  cases visitors with
  | nil => simp
  | cons visitor rest =>
    constructor
    · intro hread
      dsimp only at hread
      split at hread
      · rename_i n fits hjson
        obtain rfl := Status.ofNumber?_eq_some_iff.mp hread
        obtain ⟨stored, hstored, hjson⟩ := Option.map_eq_some_iff.mp hjson
        obtain rfl : stored = .number (.integer _ fits) := Value.ext hjson
        exact ⟨visitor, fits, rfl, hstored⟩
      · cases hread
    · rintro ⟨first, fits, hfirst, hstored⟩
      obtain rfl := Option.some.inj hfirst
      dsimp only
      rw [hstored]
      exact Status.ofNumber?_eq_some_iff.mpr rfl

/-- A whole number is a state for both ways, and nothing else is one for `whoAmI`. -/
theorem found_iff_not_heldAsDouble
    (h : s.query "User" (some (.test "email" (.text email))) = .ok visitors) :
    (Status.Found visitors ((visitorStatus? s email).getD .active) ↔
        ¬ Status.HeldAsDouble visitors) ∧
      (Status.HeldAsDouble visitors → (visitorStatus? s email).getD .active = .active) := by
  cases hread : visitorStatus? s email with
  | some status =>
    obtain ⟨visitor, fits, hfirst, hstored⟩ := (visitorStatus?_of_query h status).mp hread
    have hwhole : ¬ Status.HeldAsDouble visitors := by
      rintro ⟨other, x, finite, _, hother, hdouble, -⟩
      cases hfirst.symm.trans hother
      cases hstored.symm.trans hdouble
    refine ⟨iff_of_true (.shown hfirst ?_) hwhole, fun hdouble => absurd hdouble hwhole⟩
    exact (Record.shows_iff_of_integer hstored).mpr rfl
  | none =>
    refine ⟨⟨?_, ?_⟩, fun _ => rfl⟩
    · rintro hfound ⟨visitor, x, finite, status, hfirst, -, hstatus, hshows⟩
      cases hfound with
      | shown hother hactive =>
        cases hfirst.symm.trans hother
        exact hstatus (hshows.unique hactive)
      | assumed hnone => exact hnone visitor status hfirst hshows
    · intro hwhole
      by_cases hactive : ∃ visitor, visitors.head? = some visitor ∧ visitor.Shows .active
      · obtain ⟨visitor, hfirst, hactive⟩ := hactive
        exact .shown hfirst hactive
      · refine .assumed fun visitor status hfirst hshows => ?_
        -- the state would have been read from a whole number, so a double holds it
        obtain ⟨n, hstored, -⟩ := Record.shows_iff.mp hshows
        cases n with
        | integer n fits =>
          obtain rfl := (Record.shows_iff_of_integer hstored).mp hshows
          cases hread.symm.trans ((visitorStatus?_of_query h status).mpr ⟨_, fits, hfirst, hstored⟩)
        | float x finite =>
          refine hwhole ⟨visitor, x, finite, status, hfirst, hstored, ?_, hshows⟩
          rintro rfl
          exact hactive ⟨visitor, hfirst, hshows⟩

end Rpc

/-- A request runs as a user whose account is active. -/
theorem Session.status_of_userOf {defaultUser : String} {r : Http.Request} {user : User}
    (h : userOf defaultUser r = .ok user) : user.status = .active := by
  cases hheader : r.headerText? "authorization" with
  | none =>
    rw [userOf_of_headerText_none hheader] at h
    cases h
    rfl
  | some text =>
    rw [userOf_of_headerText hheader] at h
    obtain ⟨token, rfl⟩ := active_of_userOfCredentials h
    rfl

namespace Server

variable {s : Server} {r : Http.Request} {user : User} {call : Rpc.Request}

/-- A call to `whoAmI` is answered with the user of the request. -/
theorem answer_of_whoAmI (hservices : s.services = Rpc.Service.builtIn)
    (hcarries : s.Carries r user call) (hmethod : call.method = "whoAmI") :
    (s.answer r).1 = respond ⟨call.id,
      .ok (Rpc.identity user.id ((Rpc.visitorStatus? s.store user.id).getD .active))⟩ := by
  have hservice : s.services.get? call.method = some .whoAmI := by
    rw [hservices]
    exact Rpc.Service.get?_builtIn_eq_some_iff.mpr (.inr (.inr (.inr ⟨hmethod, rfl⟩)))
  rw [answer_of_service hcarries hservice, Rpc.Service.call, Rpc.callWhoAmI,
    Session.status_of_userOf hcarries.authorized]
  rfl

theorem exists_query_email {config : Config} {files : Files} {startedAt : String} {first : Server}
    (hschema : Catalog.schema files config.schemaPath = .ok Catalog.builtIn)
    (hstart : start config files startedAt = .ok first) (requests : List Http.Request)
    (email : String) :
    ∃ visitors, (first.run requests).store.query "User" (some (.test "email" (.text email))) =
      .ok visitors := by
  obtain ⟨ops, -, hstore⟩ := exists_typed_run hschema hstart requests
  have hresolve : (first.run requests).store.schema.resolve "User" = .ok Catalog.user := by
    rw [hstore, Store.schema_run]
    rfl
  have hcompile : Predicate.ofCriterion? Catalog.user (some (.test "email" (.text email))) =
      .ok (.textIs "email" email) :=
    Predicate.compile_test_eq_ok_iff.mpr ⟨.string, rfl, rfl⟩
  rw [Store.query_of_resolve hresolve, hcompile]
  exact ⟨_, rfl⟩

/-- On every server with the built-in types, after any run, a user who asks for the own account is
told the state that a query finds, unless the record holds the number of another state than `active`
as a double.  Then the user is told that the account is active. -/
theorem whoAmI_agrees_unless_double {config : Config} {files : Files} {startedAt : String}
    {first : Server} (hschema : Catalog.schema files config.schemaPath = .ok Catalog.builtIn)
    (hstart : start config files startedAt = .ok first) (requests : List Http.Request)
    (id : String) :
    ∃ visitors status, (first.run requests).store.query "User"
        (some (.test "email" (.text id))) = .ok visitors ∧
      (∀ r user call, (first.run requests).Carries r user call → user.id = id →
        call.method = "whoAmI" →
        ((first.run requests).answer r).1 = respond ⟨call.id, .ok (Rpc.identity id status)⟩) ∧
      (Status.Found visitors status ↔ ¬ Status.HeldAsDouble visitors) ∧
      (Status.HeldAsDouble visitors → status = .active) := by
  have hservices : (first.run requests).services = Rpc.Service.builtIn :=
    (services_run first requests).trans (services_of_start hstart)
  obtain ⟨visitors, hvisitors⟩ := exists_query_email hschema hstart requests id
  refine ⟨visitors, _, hvisitors, ?_, Rpc.found_iff_not_heldAsDouble hvisitors⟩
  rintro r user call hcarries rfl hmethod
  exact answer_of_whoAmI hservices hcarries hmethod

/-- The request that puts Ann with the state of her account. -/
def puttingAnn (status : String) : Http.Request :=
  posting [] ("[1,\"rpcsim.features\",\"put\",[\"User\"," ++
    "\x7b\"id\":\"v\",\"email\":\"ann\",\"status\":" ++ status ++ "\x7d]]")

/-- The record that Ann is put as. -/
def ann (status : Json.Number) : Record :=
  ((((Record.empty.insert "id" (.text "v")).insert "email" (.text "ann")).insert "displayName" .null
    ).insert "permissions" .null).insert "status" (.number status)

/-- The call that a request of Ann carries. -/
def annsCall : Rpc.Request := ⟨.number (.ofWord 1), "rpcsim.features", "whoAmI", []⟩

theorem status_ann (status : Json.Number) : (ann status).get? "status" = some (.number status) := by
  rw [ann, Record.get?_insert, if_pos rfl]

theorem carries_annsCall (requests : List Http.Request) :
    ((ofDefaults "now").run requests).Carries (askingWho (octets "Bearer ann")) (.active "ann")
      annsCall := by
  rw [run_eq_withStore, carries_withStore_iff]
  refine ⟨rfl, ?_, eq_ok_of_toOption ?_, eq_ok_of_toOption ?_, rfl⟩
  all_goals decide +kernel

theorem banned_told_banned :
    let s := (ofDefaults "now").run [puttingAnn "0"]
    Catalog.schema (fun _ => none) Config.default.schemaPath = .ok Catalog.builtIn ∧
      start .default (fun _ => none) "now" = .ok (ofDefaults "now") ∧
      s.Carries (askingWho (octets "Bearer ann")) (.active "ann") annsCall ∧
      (s.answer (askingWho (octets "Bearer ann"))).1 =
        respond ⟨annsCall.id, .ok (Rpc.identity "ann" .banned)⟩ := by
  intro s
  have hschema : Catalog.schema (fun _ => none) Config.default.schemaPath = .ok Catalog.builtIn := rfl
  have hstart := start_ofDefaults "now"
  have hcarries := carries_annsCall [puttingAnn "0"]
  obtain ⟨visitors, status, hvisitors, hanswer, hfound, -⟩ :=
    whoAmI_agrees_unless_double hschema hstart [puttingAnn "0"] "ann"
  have hann : s.store.query "User" (some (.test "email" (.text "ann"))) =
      .ok [ann (.integer 0 (by decide))] := eq_ok_of_toOption (by decide +kernel)
  obtain rfl := Except.ok.inj (hann.symm.trans hvisitors)
  have hshows : (ann (.integer 0 (by decide))).Shows .banned :=
    (Record.shows_iff_of_integer (status_ann _)).mpr rfl
  have hwhole : ¬ Status.HeldAsDouble [ann (.integer 0 (by decide))] := by
    rintro ⟨visitor, x, finite, -, hfirst, hdouble, -⟩
    cases hfirst
    cases (status_ann _).symm.trans hdouble
  cases hfound.mpr hwhole with
  | shown hfirst h =>
    cases hfirst
    obtain rfl := h.unique hshows
    exact ⟨hschema, hstart, hcarries, hanswer _ _ _ hcarries rfl rfl⟩
  | assumed h => exact absurd hshows (h _ _ rfl)

/-- Ann's state as a double is found by a query, and yet she is told that her account is active. -/
theorem pending_as_double_is_active :
    let s := (ofDefaults "now").run [puttingAnn "1.0"]
    start .default (fun _ => none) "now" = .ok (ofDefaults "now") ∧
      s.Carries (askingWho (octets "Bearer ann")) (.active "ann") annsCall ∧
      (∃ visitor, s.store.query "User" (some (.test "email" (.text "ann"))) = .ok [visitor] ∧
        visitor.Shows .pending) ∧
      (s.answer (askingWho (octets "Bearer ann"))).1 =
        respond ⟨annsCall.id, .ok (Rpc.identity "ann" .active)⟩ ∧
      (s.answer (askingWho (octets "Bearer ann"))).1 ≠
        respond ⟨annsCall.id, .ok (Rpc.identity "ann" .pending)⟩ := by
  intro s
  have hcarries := carries_annsCall [puttingAnn "1.0"]
  have hann : s.store.query "User" (some (.test "email" (.text "ann"))) =
      .ok [ann (.float (.ofInt 1) (by decide +kernel))] := eq_ok_of_toOption (by decide +kernel)
  have hshows : (ann (.float (.ofInt 1) (by decide +kernel))).Shows .pending :=
    Record.shows_iff.mpr ⟨_, status_ann _, by decide +kernel⟩
  have htold : (Rpc.visitorStatus? s.store "ann").getD .active = .active :=
    (Rpc.found_iff_not_heldAsDouble hann).2 ⟨_, _, _, _, rfl, status_ann _, by decide, hshows⟩
  have hanswer : (s.answer (askingWho (octets "Bearer ann"))).1 =
      respond ⟨annsCall.id, .ok (Rpc.identity "ann" .active)⟩ := by
    rw [answer_of_whoAmI (services_run (ofDefaults "now") _) hcarries rfl]
    exact congrArg (fun status => respond ⟨annsCall.id, .ok (Rpc.identity "ann" status)⟩) htold
  refine ⟨start_ofDefaults "now", hcarries, ⟨_, hann, hshows⟩, hanswer, ?_⟩
  rw [hanswer]
  decide +kernel

end Server

end RecordStore
