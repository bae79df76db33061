/-
# RecordStore.Session — the user of a call.

There is no password: a bearer token is taken as the id of the user.  A request without
credentials runs as the configured default user.  A request whose credentials are of another
scheme, or whose token is empty, is rejected.  The word `Bearer ` may stand before the token more
than once.

Credentials that are not text count as absent.
-/
import RecordStore.Http.Message
import RecordStore.Text.Blank

namespace RecordStore

/-- The states of a user's account. -/
inductive Status where
  | banned | pending | active
deriving DecidableEq

namespace Status

/-- The number that stands for a state in records. -/
def number : Status → UInt64
  | banned => 0
  | pending => 1
  | active => 2

/-- The name of a state. -/
def name : Status → String
  | banned => "Banned"
  | pending => "Pending"
  | active => "Active"

/-- The state that a number stands for. -/
def ofNumber? (n : Int) : Option Status :=
  if n = 0 then some banned else if n = 1 then some pending else if n = 2 then some active
  else none

end Status

/-- The user of a call. -/
structure User where
  id : String
  status : Status
deriving DecidableEq

/-- A user whose account is active. -/
def User.active (id : String) : User := ⟨id, .active⟩

namespace Session

/-- Why a request is rejected. -/
inductive Rejection where
  | emptyToken
  | otherScheme
deriving DecidableEq

/-- The wording of a rejection. -/
def Rejection.message : Rejection → String
  | .emptyToken => "Empty bearer token"
  | .otherScheme => "Invalid authorization header format"

/-- A text without the words `Bearer ` in front of it. -/
def withoutScheme : List Char → List Char
  | 'B' :: 'e' :: 'a' :: 'r' :: 'e' :: 'r' :: ' ' :: rest => withoutScheme rest
  | text => text

/-- The user that credentials name. -/
def userOfCredentials (text : List Char) : Except Rejection User :=
  if "Bearer ".toList.isPrefixOf text then
    match Text.trim (withoutScheme text) with
    | [] => .error .emptyToken
    | token => .ok (.active (String.ofList token))
  else .error .otherScheme

/-- The user of a request. -/
def userOf (defaultUser : String) (r : Http.Request) : Except Rejection User :=
  match r.headerText? "authorization" with
  | none => .ok (.active defaultUser)
  | some text => userOfCredentials text

end Session

end RecordStore
