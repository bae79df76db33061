/-
# RecordStore.Proofs.Server.Credentials — whom a request runs as.

Two servers that differ in nothing but their default user go through the same states: the user of a
call shows in answers and nowhere in the store (`run_withDefaultUser`).  They also answer a request
in the same way when its credentials can be read as text.  Such a request is rejected or runs as the
user that its token names, whoever the default user is.

Credentials that are not text, an octet beyond ASCII being enough, are taken for absent: the request
runs as the default user, even if a readable part of them is of another scheme or a token
(`credentials_decide_if_text`, `unreadable_scheme_runs_as_default`).
-/
import RecordStore.Proofs.Server.Run

namespace RecordStore

/-! ## Users of requests -/

namespace Session

variable {r : Http.Request} {defaultUser other : String}

/-- Readable credentials alone decide who the user of a request is. -/
theorem userOf_of_headerText {text : List Char}
    (h : r.headerText? "authorization" = some text) :
    userOf defaultUser r = userOfCredentials text := by
  rw [userOf, h]

theorem userOf_of_headerText_none (h : r.headerText? "authorization" = none) :
    userOf defaultUser r = .ok (.active defaultUser) := by
  rw [userOf, h]

/-- Whether a request is rejected, and why, does not depend on the default user. -/
theorem userOf_eq_error_iff {rejection : Rejection} :
    userOf other r = .error rejection ↔ userOf defaultUser r = .error rejection := by
  cases h : r.headerText? "authorization" with
  | none => simp [userOf_of_headerText_none h]
  | some text => rw [userOf_of_headerText h, userOf_of_headerText h]

/-- Credentials name a user whose account is active. -/
theorem active_of_userOfCredentials {text : List Char} {user : User}
    (h : userOfCredentials text = .ok user) : ∃ token, user = .active token := by
  unfold userOfCredentials at h
  split at h
  · split at h
    · cases h
    · exact ⟨_, (Except.ok.inj h).symm⟩
  · cases h

end Session

/-- A service leaves the same store after a call of any user. -/
theorem Rpc.Service.storeAfter_call (s : Store) (user other : User) (params : List Value)
    (service : Service) :
    storeAfter s (service.call s other params) = storeAfter s (service.call s user params) := by
  cases service with
  | query | put | remove | whoAmI => rfl
  | registered f =>
    -- what the function gives may depend on the user, even whether it fails
    exact (storeAfter_map s _).trans (storeAfter_map s _).symm

namespace Server

variable {s : Server} {r : Http.Request}

/-! ## Another default user -/

/-- The server with another default user. -/
def withDefaultUser (s : Server) (user : String) : Server :=
  { s with config := { s.config with defaultUser := user } }

/-- The default user has no part in starting a server. -/
theorem start_withDefaultUser {config : Config} {files : Files} {startedAt : String}
    {first : Server} (hstart : start config files startedAt = .ok first) (user : String) :
    start { config with defaultUser := user } files startedAt =
      .ok (first.withDefaultUser user) := by
  obtain ⟨schema, seed, store, hschema, hseed, hstore, hpattern, rfl⟩ := start_eq_ok_iff.mp hstart
  exact start_eq_ok_iff.mpr ⟨schema, seed, store, hschema, hseed, hstore, hpattern, rfl⟩

/-- On behalf of one user, a server with another default user answers and does the same. -/
theorem answerAs_withDefaultUser (s : Server) (user : User) (defaultUser : String)
    (r : Http.Request) :
    (s.withDefaultUser defaultUser).answerAs user r =
      ((s.answerAs user r).1, (s.answerAs user r).2.withDefaultUser defaultUser) := by
  unfold answerAs
  cases Rpc.Request.ofHttp r with
  | error fault => rfl
  | ok call =>
    have hperform : (s.withDefaultUser defaultUser).perform user call = s.perform user call := rfl
    cases h : s.perform user call with
    | error fault =>
      simp only [reply_of_perform_error h, reply_of_perform_error (hperform.trans h)]
    | ok found =>
      simp only [reply_of_perform_ok h, reply_of_perform_ok (hperform.trans h)]
      rfl

theorem reply_snd (s : Server) (user : User) (call : Rpc.Request) :
    (s.reply user call).2 =
      s.withStore (Rpc.Service.storeAfter s.store (s.perform user call)) := by
  rw [reply]
  cases s.perform user call <;> rfl

/-- Calls of different users leave the same server. -/
theorem answerAs_snd (s : Server) (user other : User) (r : Http.Request) :
    (s.answerAs other r).2 = (s.answerAs user r).2 := by
  unfold answerAs
  cases Rpc.Request.ofHttp r with
  | error fault => rfl
  | ok call =>
    show (s.reply other call).2 = (s.reply user call).2
    rw [reply_snd, reply_snd, perform, perform]
    cases s.service call with
    | error fault => rfl
    | ok service =>
      exact congrArg s.withStore (service.storeAfter_call s.store user other call.params)

/-- One request takes servers that differ in their default user to servers that differ in nothing
else. -/
theorem answer_withDefaultUser_snd (s : Server) (user : String) (r : Http.Request) :
    ((s.withDefaultUser user).answer r).2 = (s.answer r).2.withDefaultUser user := by
  by_cases h : s.takesCalls r.path = true ∧ r.method = .post
  · have hother : (s.withDefaultUser user).takesCalls r.path = true := h.1
    rw [answer_of_posted h.2 h.1, answer_of_posted h.2 hother]
    cases hown : Session.userOf s.config.defaultUser r with
    | error rejection =>
      have hrejected : Session.userOf (s.withDefaultUser user).config.defaultUser r =
          .error rejection := Session.userOf_eq_error_iff.mpr hown
      rw [hrejected]
    | ok caller =>
      cases hcaller : Session.userOf (s.withDefaultUser user).config.defaultUser r with
      | error rejection => cases hown.symm.trans (Session.userOf_eq_error_iff.mp hcaller)
      | ok other =>
        show ((s.withDefaultUser user).answerAs other r).2 = _
        rw [answerAs_withDefaultUser, answerAs_snd s caller other]
  · have hother : ¬ ((s.withDefaultUser user).takesCalls r.path = true ∧ r.method = .post) := h
    rw [answer_of_not_posted h, answer_of_not_posted hother]

/-- Runs of servers that differ in their default user end in servers that differ in nothing else. -/
theorem run_withDefaultUser (s : Server) (user : String) (requests : List Http.Request) :
    (s.withDefaultUser user).run requests = (s.run requests).withDefaultUser user := by
  induction requests generalizing s with
  | nil => rfl
  | cons r requests ih =>
    show ((s.withDefaultUser user).answer r).2.run requests = _
    rw [answer_withDefaultUser_snd, ih]
    rfl

/-! ## Credentials -/

/-- After any run, credentials posted to the path of calls decide whom the request runs as, if they
are text.  A server with another default user, after the same run, gives the same answer: a
rejection, or the answer to the user whom the token names.  Credentials that are not text decide
nothing, and the request runs as the default user. -/
theorem credentials_decide_if_text {config : Config} {files : Files} {startedAt : String}
    {first : Server} (hstart : start config files startedAt = .ok first)
    (requests : List Http.Request) (hposted : r.method = .post)
    (hpath : first.takesCalls r.path = true) {value : List UInt8}
    (hvalue : r.header? "authorization" = some value) (user : String) :
    ∃ other, start { config with defaultUser := user } files startedAt = .ok other ∧
      (∀ text, Http.Request.textOfValue? value = some text →
        ((other.run requests).answer r).1 = ((first.run requests).answer r).1 ∧
        ((∃ rejection, Session.userOfCredentials text = .error rejection ∧
            ((first.run requests).answer r).1 = .plain 401 rejection.message) ∨
          ∃ token, Session.userOfCredentials text = .ok (.active token) ∧
            ((first.run requests).answer r).1 =
              ((first.run requests).answerAs (.active token) r).1)) ∧
      (Http.Request.textOfValue? value = none →
        ((first.run requests).answer r).1 =
          ((first.run requests).answerAs (.active config.defaultUser) r).1) := by
  have hheader : r.headerText? "authorization" = Http.Request.textOfValue? value := by
    rw [Http.Request.headerText?, hvalue]
    rfl
  have hconfig : (first.run requests).config = config :=
    (config_run first requests).trans (config_of_start hstart)
  rw [← takesCalls_run first requests] at hpath
  refine ⟨first.withDefaultUser user, start_withDefaultUser hstart user, ?text, ?other⟩
  case text =>
    intro text htext
    rw [htext] at hheader
    have hother : ((first.run requests).withDefaultUser user).takesCalls r.path = true := hpath
    rw [run_withDefaultUser, answer_of_posted hposted hpath, answer_of_posted hposted hother,
      Session.userOf_of_headerText hheader, Session.userOf_of_headerText hheader]
    cases hnamed : Session.userOfCredentials text with
    | error rejection => exact ⟨rfl, .inl ⟨rejection, rfl, rfl⟩⟩
    | ok named =>
      obtain ⟨token, rfl⟩ := Session.active_of_userOfCredentials hnamed
      refine ⟨?_, .inr ⟨token, rfl, rfl⟩⟩
      show (((first.run requests).withDefaultUser user).answerAs (.active token) r).1 = _
      rw [answerAs_withDefaultUser]
  case other =>
    intro hnone
    rw [hnone] at hheader
    rw [answer_of_posted hposted hpath, Session.userOf_of_headerText_none hheader, hconfig]

/-- A call that asks who the user is, with credentials of some octets. -/
def askingWho (credentials : List UInt8) : Http.Request :=
  posting [("authorization", credentials)] "[1,\"rpcsim.features\",\"whoAmI\"]"

theorem credentials_decide_for_ann :
    start .default (fun _ => none) "now" = .ok (ofDefaults "now") ∧
    (askingWho (octets "Bearer ann")).method = .post ∧
    (ofDefaults "now").takesCalls (askingWho (octets "Bearer ann")).path = true ∧
    (askingWho (octets "Bearer ann")).header? "authorization" = some (octets "Bearer ann") ∧
    Http.Request.textOfValue? (octets "Bearer ann") = some "Bearer ann".toList ∧
    ∃ other, start { Config.default with defaultUser := "root" } (fun _ => none) "now" = .ok other ∧
      (∀ text, Http.Request.textOfValue? (octets "Bearer ann") = some text →
        ((other.run []).answer (askingWho (octets "Bearer ann"))).1 =
          (((ofDefaults "now").run []).answer (askingWho (octets "Bearer ann"))).1 ∧
        ((∃ rejection, Session.userOfCredentials text = .error rejection ∧
            (((ofDefaults "now").run []).answer (askingWho (octets "Bearer ann"))).1 =
              .plain 401 rejection.message) ∨
          ∃ token, Session.userOfCredentials text = .ok (.active token) ∧
            (((ofDefaults "now").run []).answer (askingWho (octets "Bearer ann"))).1 =
              (((ofDefaults "now").run []).answerAs (.active token)
                (askingWho (octets "Bearer ann"))).1)) ∧
      (Http.Request.textOfValue? (octets "Bearer ann") = none →
        (((ofDefaults "now").run []).answer (askingWho (octets "Bearer ann"))).1 =
          (((ofDefaults "now").run []).answerAs (.active Config.default.defaultUser)
            (askingWho (octets "Bearer ann"))).1) := by
  have hpath : (ofDefaults "now").takesCalls (askingWho (octets "Bearer ann")).path = true := by
    decide +kernel
  have hvalue : (askingWho (octets "Bearer ann")).header? "authorization" =
      some (octets "Bearer ann") := by decide +kernel
  have htext : Http.Request.textOfValue? (octets "Bearer ann") = some "Bearer ann".toList := by
    decide +kernel
  exact ⟨start_ofDefaults "now", rfl, hpath, hvalue, htext,
    credentials_decide_if_text (start_ofDefaults "now") [] rfl hpath hvalue "root"⟩

/-- Credentials of another scheme with one octet beyond ASCII are not rejected: the call runs as the
default user, and two servers that differ in this user answer it differently. -/
theorem unreadable_scheme_runs_as_default :
    let r := askingWho (octets "Basic " ++ [0xC3, 0xA9])
    ∃ first other, start .default (fun _ => none) "now" = .ok first ∧
      start { Config.default with defaultUser := "root" } (fun _ => none) "now" = .ok other ∧
      r.method = .post ∧ first.takesCalls r.path = true ∧
      r.header? "authorization" = some (octets "Basic " ++ [0xC3, 0xA9]) ∧
      (first.answer r).1.status = 200 ∧ (first.answer r).1 ≠ (other.answer r).1 := by
  have hstart := start_ofDefaults "now"
  refine ⟨_, _, hstart, start_withDefaultUser hstart "root", rfl, ?_, ?_, ?_, ?_⟩
  all_goals decide +kernel

end Server

end RecordStore
