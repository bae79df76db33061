/-
# RecordStore.Http.MediaType — media types and which of them are JSON.

A media type is a type and a subtype with a solidus between them, then parameters, each after a
semicolon.  The subtype may end in a suffix, which follows its last plus sign; a plus sign in the
first place begins none.  A type is JSON when it is `application` and its subtype or its suffix is
`json`, whatever their case and whatever the parameters, as long as these are well formed.

A parameter is a name, an equality sign and a value: a token, which may be left out at the end of
the text, or a quoted string of at least one character.  Spaces may stand before a name and after
a quoted value.
-/

namespace RecordStore.Http.MediaType

/-- Whether a character may stand in a token. -/
def isToken (c : Char) : Bool :=
  c.isAlphanum || "!#$%&'*+-.^_`|~".toList.contains c

/-- Whether a character may stand in a quoted string. -/
def isQuotable (c : Char) : Bool := 31 < c.toNat && c.toNat ≠ 127

/-! ## Parameters -/

/-- How far a list of parameters has been read. -/
inductive Phase where
  | start | name | equals | value | quoteOpen | quoted | quoteClosed
deriving DecidableEq

/-- The phase after one more character, if it may stand there. -/
def Phase.next? : Phase → Char → Option Phase
  | .start, c => if c = ' ' then some .start else if isToken c then some .name else none
  | .name, c => if c = '=' then some .equals else if isToken c then some .name else none
  | .equals, c => if c = '"' then some .quoteOpen else if isToken c then some .value else none
  | .value, c => if c = ';' then some .start else if isToken c then some .value else none
  | .quoteOpen, c => if isQuotable c then some .quoted else none
  | .quoted, c =>
    if c = '"' then some .quoteClosed else if isQuotable c then some .quoted else none
  | .quoteClosed, c =>
    if c = ';' then some .start else if c = ' ' then some .quoteClosed else none

/-- Whether a list of parameters may end in a phase. -/
def Phase.mayEnd : Phase → Bool
  | .start | .equals | .value | .quoteClosed => true
  | _ => false

/-- Whether a text is a well formed list of parameters, read from a phase on. -/
def parametersFrom : Phase → List Char → Bool
  | phase, [] => phase.mayEnd
  | phase, c :: rest =>
    match phase.next? c with
    | some next => parametersFrom next rest
    | none => false

/-! ## Types -/

/-- A media type without its parameters, in lower case. -/
structure Essence where
  type : List Char
  subtype : List Char
  suffix : Option (List Char)

/-- A subtype and its suffix, if it has one. -/
def splitSuffix (text : List Char) : List Char × Option (List Char) :=
  let backwards := text.reverse
  match backwards.dropWhile (· ≠ '+') with
  | _ :: c :: rest => ((c :: rest).reverse, some (backwards.takeWhile (· ≠ '+')).reverse)
  | _ => (text, none)

/-- What may follow a subtype: nothing, or a semicolon and parameters. -/
def tailIsGood (subtype : List Char) : List Char → Bool
  | [] => true
  | c :: rest => c = ';' && !subtype.isEmpty && parametersFrom .start rest

/-- The media type that a text writes. -/
def ofText? (text : List Char) : Option Essence :=
  let type := text.takeWhile isToken
  match text.dropWhile isToken with
  | '/' :: rest =>
    let whole := rest.takeWhile isToken
    if !type.isEmpty && tailIsGood whole (rest.dropWhile isToken) then
      let (subtype, suffix) := splitSuffix (whole.map Char.toLower)
      some ⟨type.map Char.toLower, subtype, suffix⟩
    else none
  | _ => none

/-- Whether a media type is JSON. -/
def Essence.isJson (e : Essence) : Bool :=
  e.type = "application".toList && (e.subtype = "json".toList || e.suffix = some "json".toList)

/-- Whether a text writes a media type that is JSON. -/
def isJson (text : List Char) : Bool := (ofText? text).any Essence.isJson

/-- Case, a suffix and parameters do not matter; another subtype does. -/
example :
    isJson "APPLICATION/JSON; charset=utf-8".toList ∧ isJson "application/problem+json".toList ∧
      ¬isJson "application/jsonx".toList ∧ ¬isJson "text/json".toList := by decide +kernel

end RecordStore.Http.MediaType
