/-
# RecordStore.Json.Token — the tokens of JSON and the text of a document.

A document is written without blanks as the texts of its tokens one after another, so `chars v =
v.tokens.flatMap Token.chars`.  Strings escape the quotation mark, the reverse solidus and the
control characters and nothing else; control characters without a letter of their own are written
`\u00xx` in lower case.

Two tokens are never written.  A string token without content stands for a well delimited string
that is not a sequence of characters, and `junk` for the place where a text stops being JSON.
Only the scanner produces them.
-/
import RecordStore.Json.Basic

namespace RecordStore

namespace Json

/-- A token of JSON. -/
inductive Token where
  | openArray | closeArray | openObject | closeObject | comma | colon
  | null
  | bool (b : Bool)
  | number (lexeme : List Char)
  | text (content : Option String)
  | junk
deriving DecidableEq

/-! ## Strings -/

/-- The lower case hexadecimal digit of a number below sixteen. -/
def hexDigit (n : Nat) : Char := Nat.digitChar n

/-- How one character is written inside a string. -/
def escaped (c : Char) : List Char :=
  if c = '"' then ['\\', '"']
  else if c = '\\' then ['\\', '\\']
  else if c = '\x08' then ['\\', 'b']
  else if c = '\x0c' then ['\\', 'f']
  else if c = '\n' then ['\\', 'n']
  else if c = '\r' then ['\\', 'r']
  else if c = '\t' then ['\\', 't']
  else if c.toNat < 0x20 then
    ['\\', 'u', '0', '0', hexDigit (c.toNat / 16), hexDigit (c.toNat % 16)]
  else [c]

/-- A string between quotation marks. -/
def quoted (s : String) : List Char := '"' :: s.toList.flatMap escaped ++ ['"']

/-! ## Documents -/

/-- The text of a token. -/
def Token.chars : Token → List Char
  | .openArray => ['[']
  | .closeArray => [']']
  | .openObject => ['\x7b']
  | .closeObject => ['\x7d']
  | .comma => [',']
  | .colon => [':']
  | .null => ['n', 'u', 'l', 'l']
  | .bool true => ['t', 'r', 'u', 'e']
  | .bool false => ['f', 'a', 'l', 's', 'e']
  | .number lexeme => lexeme
  | .text content => quoted (content.getD "")
  | .junk => []

mutual

/-- The tokens of a document. -/
def tokens : Json → List Token
  | .null => [.null]
  | .bool b => [.bool b]
  | .number n => [.number n.chars]
  | .text s => [.text (some s)]
  | .array [] => [.openArray, .closeArray]
  | .array (item :: rest) => .openArray :: tokens item ++ furtherItems rest
  | .object [] => [.openObject, .closeObject]
  | .object ((name, value) :: rest) =>
    .openObject :: .text (some name) :: .colon :: tokens value ++ furtherMembers rest

/-- The tokens from after an item to the end of its array. -/
def furtherItems : List Json → List Token
  | [] => [.closeArray]
  | item :: rest => .comma :: tokens item ++ furtherItems rest

/-- The tokens from after a member to the end of its object. -/
def furtherMembers : List (String × Json) → List Token
  | [] => [.closeObject]
  | (name, value) :: rest =>
    .comma :: .text (some name) :: .colon :: tokens value ++ furtherMembers rest

end

/-- The text of a document, without blanks. -/
def chars (v : Json) : List Char := v.tokens.flatMap Token.chars

/-- The text of a document, as a string. -/
def render (v : Json) : String := String.ofList v.chars

end Json

end RecordStore
