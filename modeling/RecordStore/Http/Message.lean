/-
# RecordStore.Http.Message — requests and responses.

A header has a name, in which case does not matter, and a value of any octets.  A value counts as
text only if it consists of visible ASCII characters, spaces and tabs.  Of several headers with
one name the first counts.

The target of a request is a path, or an absolute address with a scheme, an authority and a path,
or an asterisk, or an authority alone.  A query or a fragment may follow the path.
-/

namespace RecordStore.Http

/-- The methods that a server tells apart. -/
inductive Method where
  | get | head | post | options
  | other (name : String)
deriving DecidableEq

/-- The method of a name. -/
def Method.ofName (name : String) : Method :=
  if name = "GET" then .get
  else if name = "HEAD" then .head
  else if name = "POST" then .post
  else if name = "OPTIONS" then .options
  else .other name

/-- A request: its method, its target, its headers in order, and its body. -/
structure Request where
  method : Method
  target : String
  headers : List (String × List UInt8)
  body : List UInt8

/-- A response: its status, the type of its content if it has one, and its body. -/
structure Response where
  status : Nat
  contentType : Option String
  body : String
deriving DecidableEq

namespace Request

/-! ## Paths -/

/-- A text up to a query or a fragment. -/
def beforeQuery (text : List Char) : List Char := text.takeWhile fun c => c ≠ '?' && c ≠ '#'

/-- What follows the scheme of an absolute address. -/
def afterScheme? : List Char → Option (List Char)
  | ':' :: '/' :: '/' :: rest => some rest
  | c :: rest => if c.isAlphanum || "+-.~".toList.contains c then afterScheme? rest else none
  | [] => none

/-- The path after an authority; an address without one has the path `/`. -/
def afterAuthority (address : List Char) : List Char :=
  match beforeQuery (address.dropWhile fun c => c ≠ '/' && c ≠ '?' && c ≠ '#') with
  | [] => ['/']
  | path => path

/-- The path that a target names; an authority alone names none. -/
def pathOfTarget : List Char → List Char
  | '/' :: rest => beforeQuery ('/' :: rest)
  | ['*'] => ['*']
  | target => ((afterScheme? target).map afterAuthority).getD []

/-- The path of a request. -/
def path (r : Request) : String := String.ofList (pathOfTarget r.target.toList)

/-! ## Headers -/

/-- The value of the first header of a name, which is given in lower case. -/
def header? (r : Request) (name : String) : Option (List UInt8) :=
  (r.headers.find? fun h => h.1.map Char.toLower = name).map Prod.snd

/-- Whether an octet is a visible ASCII character, a space or a tab. -/
def isTextOctet (octet : UInt8) : Bool := (32 ≤ octet && octet < 127) || octet = 9

/-- A header value as text, if it is one. -/
def textOfValue? (value : List UInt8) : Option (List Char) :=
  if value.all isTextOctet then some (value.map fun octet => Char.ofNat octet.toNat) else none

/-- The text of the first header of a name, if it has one. -/
def headerText? (r : Request) (name : String) : Option (List Char) :=
  (r.header? name).bind textOfValue?

end Request

namespace Response

/-- The response without content. -/
def bare (status : Nat) : Response := ⟨status, none, ""⟩

/-- A response with plain text. -/
def plain (status : Nat) (body : String) : Response :=
  ⟨status, some "text/plain; charset=utf-8", body⟩

/-- A response with a JSON document. -/
def json (body : String) : Response := ⟨200, some "application/json", body⟩

/-- A response without its body. -/
def withoutBody (r : Response) : Response := { r with body := "" }

end Response

end RecordStore.Http
