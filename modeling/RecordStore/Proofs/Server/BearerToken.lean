/-
# RecordStore.Proofs.Server.BearerToken — tokens as the ids of users.

A request that presents `Bearer ` and a token runs as the user whose id is the token, without the
blanks around it.  A blank token is rejected, and so are credentials that start with anything else.
Different tokens are different users, then.

This fails for the tokens that start with `Bearer ` themselves, and for no others: the word is taken
off as often as it comes, so that such credentials are worth what is left of them after the first
(`token_is_user_unless_schemed`, `repeated_scheme_dropped`).  What is left holds fewer characters that
are not blank than the token does, so it never names the user that the token should name.
-/
import RecordStore.Proofs.Server.Credentials

namespace RecordStore

/-! ## Trimming -/

namespace Text

/-- A text without the blanks around it. -/
def trimmed (text : String) : String := String.ofList (trim text.toList)

theorem trimmed_eq_empty_iff {text : String} : trimmed text = "" ↔ trim text.toList = [] := by
  rw [trimmed, ← String.ofList_nil]
  exact ⟨fun h => String.ofList_injective h, congrArg String.ofList⟩

/-- The number of characters that are not blank. -/
def weight (text : List Char) : Nat := text.countP fun c => !isBlank c

theorem weight_append (a b : List Char) : weight (a ++ b) = weight a + weight b :=
  List.countP_append

theorem weight_dropWhile (text : List Char) : weight (text.dropWhile isBlank) = weight text := by
  induction text with
  | nil => rfl
  | cons c rest ih =>
    by_cases hc : isBlank c = true
    · rw [List.dropWhile_cons_of_pos hc, ih, weight, weight, List.countP_cons_of_neg (by simp [hc])]
    · rw [List.dropWhile_cons_of_neg hc]

/-- Trimming takes off nothing but blanks. -/
theorem weight_trim (text : List Char) : weight (trim text) = weight text := by
  have hreverse : ∀ l : List Char, weight l.reverse = weight l := fun l => List.countP_reverse
  rw [trim, hreverse, weight_dropWhile, hreverse, weight_dropWhile]

end Text

/-! ## Credentials that are text -/

/-- A visible ASCII character, a space or a tab. -/
def Http.IsVisible (c : Char) : Prop := (32 ≤ c.toNat ∧ c.toNat < 127) ∨ c.toNat = 9

instance (c : Char) : Decidable (Http.IsVisible c) := inferInstanceAs (Decidable (_ ∨ _))

theorem Http.IsVisible.isTextOctet {c : Char} (h : IsVisible c) :
    Request.isTextOctet (UInt8.ofNat c.toNat) = true ∧
      Char.ofNat (UInt8.ofNat c.toNat).toNat = c := by
  have hoctet : (UInt8.ofNat c.toNat).toNat = c.toNat := by
    rw [UInt8.toNat_ofNat']
    exact Nat.mod_eq_of_lt (by unfold IsVisible at h; omega)
  constructor
  · unfold IsVisible at h
    simpa [Request.isTextOctet, UInt8.le_iff_toNat_le, UInt8.lt_iff_toNat_lt, ← UInt8.toNat_inj,
      hoctet] using h
  · rw [hoctet, Char.ofNat_toNat]

/-- A request has credentials that consist of visible ASCII characters, spaces and tabs. -/
structure Http.Request.Presents (r : Http.Request) (credentials : String) : Prop where
  visible : ∀ c ∈ credentials.toList, IsVisible c
  header : r.header? "authorization" = some (Server.octets credentials)

theorem Http.Request.Presents.headerText? {r : Http.Request} {credentials : String}
    (h : r.Presents credentials) : r.headerText? "authorization" = some credentials.toList := by
  have hoctets : (Server.octets credentials).all isTextOctet = true := by
    rw [Server.octets, List.all_map, List.all_eq_true]
    exact fun c hc => (h.visible c hc).isTextOctet.1
  have hchars : (Server.octets credentials).map (fun octet => Char.ofNat octet.toNat) =
      credentials.toList := by
    rw [Server.octets, List.map_map]
    exact (List.map_congr_left fun c hc => (h.visible c hc).isTextOctet.2).trans (List.map_id _)
  rw [Request.headerText?, h.header, Option.bind_some, textOfValue?, if_pos hoctets, hchars]

/-! ## The word before the token -/

namespace Session

/-- A text starts with the word that stands before a token. -/
def Schemed (text : String) : Prop := "Bearer ".toList <+: text.toList

/-- The word is taken off as often as it comes. -/
theorem withoutScheme_append (text : List Char) :
    withoutScheme ("Bearer ".toList ++ text) = withoutScheme text := by
  show withoutScheme ('B' :: 'e' :: 'a' :: 'r' :: 'e' :: 'r' :: ' ' :: text) = _
  rw [withoutScheme]

theorem withoutScheme_eq_self {text : List Char} (h : ¬ "Bearer ".toList <+: text) :
    withoutScheme text = text := by
  rw [withoutScheme]
  rintro rest rfl
  exact h ⟨rest, rfl⟩

theorem withoutScheme_suffix (text : List Char) : withoutScheme text <:+ text := by
  induction text using withoutScheme.induct with
  | case1 rest ih =>
    rw [withoutScheme]
    exact ih.trans ⟨"Bearer ".toList, rfl⟩
  | case2 text hother =>
    have hself : withoutScheme text = text := by
      refine withoutScheme_eq_self ?_
      rintro ⟨rest, hrest⟩
      exact hother rest hrest.symm
    exact ⟨[], hself⟩

/-! ## Users of credentials -/

/-- The user that is left of credentials when the word is taken off. -/
def userOfToken (token : List Char) : Except Rejection User :=
  if Text.trim token = [] then .error .emptyToken
  else .ok (.active (String.ofList (Text.trim token)))

theorem userOfCredentials_of_schemed {credentials : String} (h : Schemed credentials) :
    userOfCredentials credentials.toList = userOfToken (withoutScheme credentials.toList) := by
  have hprefix := List.isPrefixOf_iff_prefix.mpr h
  rw [userOfCredentials, if_pos hprefix, userOfToken]
  cases Text.trim (withoutScheme credentials.toList) with
  | nil => rfl
  | cons c rest => rfl

theorem userOfCredentials_of_not_schemed {credentials : String} (h : ¬ Schemed credentials) :
    userOfCredentials credentials.toList = .error .otherScheme := by
  have hprefix := mt List.isPrefixOf_iff_prefix.mp h
  rw [userOfCredentials, if_neg hprefix]

theorem userOfCredentials_append (token : String) :
    userOfCredentials ("Bearer " ++ token).toList = userOfToken (withoutScheme token.toList) := by
  have hschemed : Schemed ("Bearer " ++ token) := by
    rw [Schemed, String.toList_append]
    exact List.prefix_append _ _
  rw [userOfCredentials_of_schemed hschemed, String.toList_append, withoutScheme_append]

/-- A token that starts with the word makes the first one superfluous. -/
theorem userOfCredentials_append_of_schemed {token : String} (h : Schemed token) :
    userOfCredentials ("Bearer " ++ token).toList = userOfCredentials token.toList := by
  rw [userOfCredentials_append, userOfCredentials_of_schemed h]

/-- Any other token names a user, unless it is blank. -/
theorem userOfCredentials_append_of_not_schemed {token : String} (h : ¬ Schemed token) :
    userOfCredentials ("Bearer " ++ token).toList =
      if Text.trimmed token = "" then .error .emptyToken
      else .ok (.active (Text.trimmed token)) := by
  rw [userOfCredentials_append, withoutScheme_eq_self h, userOfToken]
  simp only [Text.trimmed_eq_empty_iff]
  rfl

theorem weight_withoutScheme_lt {token : String} (h : Schemed token) :
    Text.weight (withoutScheme token.toList) < Text.weight token.toList := by
  obtain ⟨rest, hrest⟩ := h
  have hle : Text.weight (withoutScheme rest) ≤ Text.weight rest :=
    (withoutScheme_suffix rest).sublist.countP_le
  have hword : Text.weight "Bearer ".toList = 6 := by decide
  rw [← hrest, withoutScheme_append, Text.weight_append, hword]
  omega

/-- A token that starts with the word is never the id of the user. -/
theorem userOfCredentials_append_ne {token : String} (h : Schemed token) :
    userOfCredentials ("Bearer " ++ token).toList ≠ .ok (.active (Text.trimmed token)) := by
  rw [userOfCredentials_append, userOfToken]
  intro hsame
  split at hsame
  · cases hsame
  · have hid := congrArg User.id (Except.ok.inj hsame)
    have htrim := String.ofList_injective hid
    -- both texts are trimmed, so they would be of one weight before that too
    have hweight := congrArg Text.weight htrim
    rw [Text.weight_trim, Text.weight_trim] at hweight
    exact absurd hweight (Nat.ne_of_lt (weight_withoutScheme_lt h))

theorem trimmed_ne_of_schemed {token : String} (h : Schemed token) : Text.trimmed token ≠ "" := by
  intro hblank
  have hlt := weight_withoutScheme_lt h
  rw [← Text.weight_trim token.toList, Text.trimmed_eq_empty_iff.mp hblank] at hlt
  exact absurd hlt (Nat.not_lt_zero _)

end Session

/-! ## Users of requests -/

namespace Server

variable {s : Server} {r : Http.Request} {credentials token : String}

/-- A server takes a request for one of a user, and answers it on the user's behalf. -/
def RunsAs (s : Server) (r : Http.Request) (user : User) : Prop :=
  Session.userOf s.config.defaultUser r = .ok user ∧ s.answer r = s.answerAs user r

theorem userOf_of_presents (hr : r.Presents credentials) (defaultUser : String) :
    Session.userOf defaultUser r = Session.userOfCredentials credentials.toList :=
  Session.userOf_of_headerText hr.headerText?

theorem answer_of_rejected {rejection : Session.Rejection} (hposted : r.method = .post)
    (hpath : s.takesCalls r.path = true) (hr : r.Presents credentials)
    (h : Session.userOfCredentials credentials.toList = .error rejection) :
    s.answer r = (.plain 401 rejection.message, s) := by
  rw [answer_of_posted hposted hpath, userOf_of_presents hr, h]

theorem runsAs_iff (hposted : r.method = .post) (hpath : s.takesCalls r.path = true)
    (hr : r.Presents credentials) {user : User} :
    s.RunsAs r user ↔ Session.userOfCredentials credentials.toList = .ok user := by
  rw [RunsAs, userOf_of_presents hr]
  refine and_iff_left_of_imp fun h => ?_
  rw [answer_of_posted hposted hpath, userOf_of_presents hr, h]

/-- A request with a token that does not start with the word runs as nobody but the user whose id is
the token. -/
theorem eq_active_of_runsAs (hr : r.Presents ("Bearer " ++ token))
    (htoken : ¬ Session.Schemed token) {user : User} (h : s.RunsAs r user) :
    user = .active (Text.trimmed token) := by
  have huser := h.1
  rw [userOf_of_presents hr, Session.userOfCredentials_append_of_not_schemed htoken] at huser
  split at huser
  · cases huser
  · exact (Except.ok.inj huser).symm

/-- A request posted to the path of calls, with credentials that are text, is rejected unless they
start with `Bearer `.  Of a token that does not start with `Bearer ` again, the trimmed text is the id
of the user as whom the request runs; if nothing is left of it the request is rejected.  Two requests
with such tokens run as one user only if the trimmed tokens are the same.

A token that starts with `Bearer ` again is not blank, and yet never the id of the user.  The request
is dealt with as one that presents the token alone as its credentials. -/
theorem token_is_user_unless_schemed (hposted : r.method = .post)
    (hpath : s.takesCalls r.path = true) (hr : r.Presents credentials) :
    (¬ Session.Schemed credentials →
      s.answer r = (.plain 401 "Invalid authorization header format", s)) ∧
    ∀ token, credentials = "Bearer " ++ token →
      (¬ Session.Schemed token →
        (Text.trimmed token = "" → s.answer r = (.plain 401 "Empty bearer token", s)) ∧
        (Text.trimmed token ≠ "" → s.RunsAs r (.active (Text.trimmed token))) ∧
        ∀ (s' : Server) (r' : Http.Request) (token' : String) (user : User),
          r'.Presents ("Bearer " ++ token') → ¬ Session.Schemed token' →
            s.RunsAs r user → s'.RunsAs r' user → Text.trimmed token = Text.trimmed token') ∧
      (Session.Schemed token →
        Text.trimmed token ≠ "" ∧ ¬ s.RunsAs r (.active (Text.trimmed token)) ∧
        ∀ (r' : Http.Request) (defaultUser : String), r'.Presents token →
          Session.userOf defaultUser r' = Session.userOf defaultUser r) := by
  refine ⟨?other, ?bearer⟩
  case other =>
    intro hother
    exact answer_of_rejected hposted hpath hr (Session.userOfCredentials_of_not_schemed hother)
  case bearer =>
    rintro token rfl
    refine ⟨?single, ?repeated⟩
    case single =>
      intro htoken
      have hnamed := Session.userOfCredentials_append_of_not_schemed htoken
      refine ⟨?blank, ?user, ?distinct⟩
      case blank =>
        intro hblank
        rw [if_pos hblank] at hnamed
        exact answer_of_rejected hposted hpath hr hnamed
      case user =>
        intro hsome
        rw [if_neg hsome] at hnamed
        exact (runsAs_iff hposted hpath hr).mpr hnamed
      case distinct =>
        intro s' r' token' user hr' htoken' hruns hruns'
        have huser := eq_active_of_runsAs hr htoken hruns
        rw [eq_active_of_runsAs hr' htoken' hruns'] at huser
        exact (congrArg User.id huser).symm
    case repeated =>
      intro htoken
      refine ⟨Session.trimmed_ne_of_schemed htoken, ?never, ?alone⟩
      case never =>
        rw [runsAs_iff hposted hpath hr]
        exact Session.userOfCredentials_append_ne htoken
      case alone =>
        intro r' defaultUser hr'
        rw [userOf_of_presents hr, userOf_of_presents hr',
          Session.userOfCredentials_append_of_schemed htoken]

theorem presents_askingWho
    (hvisible : credentials.toList.all (fun c => decide (Http.IsVisible c)) = true) :
    (askingWho (octets credentials)).Presents credentials := by
  have hcontent : ¬ "content-type".map Char.toLower = "authorization" := by decide +kernel
  have hcredentials : "authorization".map Char.toLower = "authorization" := by decide +kernel
  refine ⟨fun c hc => of_decide_eq_true (List.all_eq_true.mp hvisible c hc), ?_⟩
  simp [askingWho, posting, Http.Request.header?, hcontent, hcredentials]

theorem token_between_blanks_is_user :
    (askingWho (octets "Bearer  ann ")).method = .post ∧
    (ofDefaults "now").takesCalls (askingWho (octets "Bearer  ann ")).path = true ∧
    (askingWho (octets "Bearer  ann ")).Presents "Bearer  ann " ∧ ¬ Session.Schemed " ann " ∧
    (ofDefaults "now").RunsAs (askingWho (octets "Bearer  ann ")) (.active "ann") := by
  have hpath : (ofDefaults "now").takesCalls (askingWho (octets "Bearer  ann ")).path = true := by
    decide +kernel
  have hpresents : (askingWho (octets "Bearer  ann ")).Presents "Bearer  ann " :=
    presents_askingWho (by decide)
  have htoken : ¬ Session.Schemed " ann " := by
    unfold Session.Schemed
    decide
  obtain ⟨_, hbearer⟩ := token_is_user_unless_schemed rfl hpath hpresents
  obtain ⟨_, huser, _⟩ := (hbearer " ann " rfl).1 htoken
  exact ⟨rfl, hpath, hpresents, htoken, huser (by decide)⟩

/-- A request with the token `Bearer ann` does not run as the user of this id but as `ann`, like a
request with the token `ann`. -/
theorem repeated_scheme_dropped :
    (askingWho (octets "Bearer Bearer ann")).method = .post ∧
    (ofDefaults "now").takesCalls (askingWho (octets "Bearer Bearer ann")).path = true ∧
    (askingWho (octets "Bearer Bearer ann")).Presents ("Bearer " ++ "Bearer ann") ∧
    Text.trimmed "Bearer ann" = "Bearer ann" ∧
    ¬ (ofDefaults "now").RunsAs (askingWho (octets "Bearer Bearer ann")) (.active "Bearer ann") ∧
    (ofDefaults "now").RunsAs (askingWho (octets "Bearer Bearer ann")) (.active "ann") ∧
    (ofDefaults "now").RunsAs (askingWho (octets "Bearer ann")) (.active "ann") := by
  have hpath : ∀ value, (ofDefaults "now").takesCalls (askingWho value).path = true := by
    intro value
    show (ofDefaults "now").takesCalls (posting [] "").path = true
    decide +kernel
  have hrepeated : (askingWho (octets "Bearer Bearer ann")).Presents "Bearer Bearer ann" :=
    presents_askingWho (by decide)
  have hsingle : (askingWho (octets "Bearer ann")).Presents "Bearer ann" :=
    presents_askingWho (by decide)
  refine ⟨rfl, hpath _, hrepeated, by decide, ?_, ?_, ?_⟩
  · rw [runsAs_iff rfl (hpath _) hrepeated]
    intro h
    have hid := congrArg User.id (Except.ok.inj h)
    exact absurd hid (by decide)
  · exact (runsAs_iff rfl (hpath _) hrepeated).mpr rfl
  · exact (runsAs_iff rfl (hpath _) hsingle).mpr rfl

end Server

end RecordStore
