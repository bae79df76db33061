/-
# RecordStore.Json.Tree — the structure of a text, as far as it goes.

Readers report the first problem of a text in the order in which the text stands, and a problem of
meaning (a number where a string is due) may come before or after a problem of form (a missing
bracket).  A `Tree` therefore describes any text whatever: it has the containers in the order of
their parts, each with the note whether it was cut short, and the word `broken` where a value was
due and none could be read.  What is cut short is always the last part of what surrounds
it, so a reader that goes through a tree from the front meets problems of form exactly where the
text has them.

`Tree.ofTokens` is a machine with a stack of open containers; nothing in it depends on how deeply
the text nests.
-/
import RecordStore.Json.Scanner

namespace RecordStore

namespace Json

/-- How a container ends: with its own bracket, or cut short by a token that cannot stand there or
by the end of the text. -/
inductive Ending where
  | closed
  | cut
deriving DecidableEq

/-- The structure of a text. -/
inductive Tree where
  | null
  | bool (b : Bool)
  | number (lexeme : List Char)
  | text (content : Option String)
  | array (items : List Tree) (ending : Ending)
  | object (members : List (Option String × Tree)) (ending : Ending)
  | broken

/-- Whether a value was read to its end.  Whatever a complete container holds is complete. -/
def Tree.complete : Tree → Bool
  | .array _ ending => ending = .closed
  | .object _ ending => ending = .closed
  | .broken => false
  | _ => true

/-- A text as one value, with the note whether something other than blanks follows it. -/
structure Document where
  tree : Tree
  trailing : Bool

namespace Tree

/-! ## Open containers -/

/-- An open container with its complete parts in reverse: an array, an object between two members,
or an object within the member of a given name. -/
inductive Frame where
  | items (done : List Tree)
  | members (done : List (Option String × Tree))
  | member (done : List (Option String × Tree)) (name : Option String)

/-- What may stand next. -/
inductive Due where
  | value | itemOrClose | nameOrClose | name | colon | separator
deriving DecidableEq

/-- What one token leads to. -/
inductive Outcome where
  | more (stack : List Frame) (due : Due)
  | whole (tree : Tree)
  | failed

/-- The position after a complete value within the open containers. -/
def place (tree : Tree) : List Frame → Outcome
  | [] => .whole tree
  | .items done :: stack => .more (.items (tree :: done) :: stack) .separator
  | .members _ :: _ => .failed
  | .member done name :: stack => .more (.members ((name, tree) :: done) :: stack) .separator

/-- The position after the first token of a value, if it is one. -/
def enter? (stack : List Frame) : Token → Option Outcome
  | .null => some (place .null stack)
  | .bool b => some (place (.bool b) stack)
  | .number lexeme => some (place (.number lexeme) stack)
  | .text content => some (place (.text content) stack)
  | .openArray => some (.more (.items [] :: stack) .itemOrClose)
  | .openObject => some (.more (.members [] :: stack) .nameOrClose)
  | _ => none

/-- The position after a token that closes the innermost container, if it does. -/
def leave? : List Frame → Token → Option Outcome
  | .items done :: stack, .closeArray => some (place (.array done.reverse .closed) stack)
  | .members done :: stack, .closeObject => some (place (.object done.reverse .closed) stack)
  | _, _ => none

/-- The position after the name of a member, if the token is one. -/
def name? : List Frame → Token → Option Outcome
  | .members done :: stack, .text name => some (.more (.member done name :: stack) .colon)
  | _, _ => none

/-- The position after a comma, if the token is one. -/
def comma? : List Frame → Token → Option Outcome
  | .items done :: stack, .comma => some (.more (.items done :: stack) .value)
  | .members done :: stack, .comma => some (.more (.members done :: stack) .name)
  | _, _ => none

/-- The step that one token makes. -/
def advance (stack : List Frame) (due : Due) (token : Token) : Outcome :=
  (match due with
    | .value => enter? stack token
    | .itemOrClose => (enter? stack token).or (leave? stack token)
    | .nameOrClose => (name? stack token).or (leave? stack token)
    | .name => name? stack token
    | .colon => if token = Token.colon then some (.more stack .value) else none
    | .separator => (comma? stack token).or (leave? stack token)).getD .failed

/-- Whether a value has begun, or could have, where reading stops. -/
def Due.breaksValue : Due → Bool
  | .value | .itemOrClose | .colon => true
  | _ => false

/-- The tree of a text that stops within the open containers. -/
def abandon : List Frame → Option Tree → Tree
  | [], inner => inner.getD .broken
  | .items done :: stack, inner =>
    abandon stack (some (.array (inner.toList ++ done).reverse .cut))
  | .members done :: stack, _ => abandon stack (some (.object done.reverse .cut))
  | .member done name :: stack, inner =>
    abandon stack (some (.object ((name, inner.getD .broken) :: done).reverse .cut))

/-- The tree of a text that stops where `due` is due. -/
def stop (stack : List Frame) (due : Due) : Document :=
  ⟨abandon stack (if due.breaksValue then some .broken else none), false⟩

/-- The tokens read from a position on. -/
def readFrom (stack : List Frame) (due : Due) : List Token → Document
  | [] => stop stack due
  | token :: rest =>
    match advance stack due token with
    | .more stack due => readFrom stack due rest
    | .whole tree => ⟨tree, !rest.isEmpty⟩
    | .failed => stop stack due

/-- The structure of a list of tokens. -/
def ofTokens (tokens : List Token) : Document := readFrom [] .value tokens

end Tree

/-- The structure of a text. -/
def Document.ofSymbols (text : List (Option Char)) : Document := Tree.ofTokens (scan text)

/-- The structure of a text that is a string. -/
def Document.ofString (text : String) : Document := .ofSymbols (text.toList.map some)

end Json

end RecordStore
