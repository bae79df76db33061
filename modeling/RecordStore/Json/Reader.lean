/-
# RecordStore.Json.Reader — reading structured data out of a text.

The readers of this library go through the tree of a text from the front and stop at the first
problem, a `Fault`.  This file holds the reading of a whole document and the readers of strings,
maps and sequences from which those of larger structures are built.

A document may nest at most `nestingLimit` containers.  A reader is told how many it may still
open (`room`) and passes on one less to what is inside a container.  Data that a structure does
not ask for is skipped without this limit, and needs to be no more than well formed.
-/
import RecordStore.Json.Fault
import RecordStore.Json.Tree
import RecordStore.Value

namespace RecordStore

namespace Json

/-- The number of containers that a document may nest. -/
def nestingLimit : Nat := 127

/-! ## Whole documents -/

mutual

/-- The document that a tree is, with at most `room` containers nested. -/
def ofTree? : Nat → Tree → Option Json
  | _, .null => some .null
  | _, .bool b => some (.bool b)
  | _, .number lexeme => (Number.ofLexeme? lexeme).map .number
  | _, .text content => content.map .text
  | room + 1, .array items .closed => (itemsOfTrees? room items).map .array
  | room + 1, .object members .closed => (membersOfTrees? room members).map .object
  | _, _ => none

/-- The items that a list of trees is. -/
def itemsOfTrees? : Nat → List Tree → Option (List Json)
  | _, [] => some []
  | room, tree :: rest => do
    let item ← ofTree? room tree
    let items ← itemsOfTrees? room rest
    return item :: items

/-- The members that a list of named trees is. -/
def membersOfTrees? : Nat → List (Option String × Tree) → Option (List (String × Json))
  | _, [] => some []
  | room, (name, tree) :: rest => do
    let name ← name
    let value ← ofTree? room tree
    let members ← membersOfTrees? room rest
    return (name, value) :: members

end

/-- The document that a text is, if it is one and nothing follows it. -/
def ofDocument? (room : Nat) (d : Document) : Option Json :=
  if d.trailing then none else ofTree? room d.tree

/-- The document that a string writes. -/
def ofString? (text : String) : Option Json := ofDocument? nestingLimit (.ofString text)

/-! ## Mismatches -/

/-- What stands in the place of something else, of which no more than the start need be readable. -/
def Found.ofTree? : Tree → Option Found
  | .null => some .null
  | .bool b => some (.bool b)
  | .number lexeme => (Number.ofLexeme? lexeme).map .number
  | .text content => content.map .text
  | .array _ _ => some .sequence
  | .object _ _ => some .map
  | .broken => none

/-- The fault of a tree that is not what was asked for. -/
def mismatch (expected : Expected) (tree : Tree) : Fault :=
  match Found.ofTree? tree with
  | some found => .wrongType found expected
  | none => .unreadable

/-! ## Readers -/

/-- A string. -/
def readText : Tree → Except Fault String
  | .text (some s) => .ok s
  | tree => .error (mismatch .text tree)

/-- A value of any shape. -/
def readValue (room : Nat) (tree : Tree) : Except Fault Value :=
  match ofTree? room tree with
  | some v => .ok (.ofJson v)
  | none => .error .unreadable

/-- Data that nobody asked for. -/
def skip (tree : Tree) : Except Fault Unit :=
  if tree.complete then .ok () else .error .unreadable

/-- The name of a member. -/
def readName : Option String → Except Fault String
  | some name => .ok name
  | none => .error .unreadable

/-- The end of a container that has nothing more to read. -/
def readEnding : Ending → Except Fault Unit
  | .closed => .ok ()
  | .cut => .error .unreadable

/-- The end of a text that has nothing more to read. -/
def readEnd (d : Document) : Except Fault Unit :=
  if d.trailing then .error .unreadable else .ok ()

/-- A map from names, every member read by the one reader. -/
def readMembers {α : Type} (read : Tree → Except Fault α) :
    List (Option String × Tree) → Except Fault (List (String × α))
  | [] => .ok []
  | (name, tree) :: rest => do
    let name ← readName name
    let value ← read tree
    let members ← readMembers read rest
    return (name, value) :: members

/-- A map from names; of several members with one name the last counts. -/
def readMap {α : Type} (read : Tree → Except Fault α) : Tree → Except Fault (NameMap α)
  | .object members ending => do
    let members ← readMembers read members
    readEnding ending
    return .ofList members
  | tree => .error (mismatch .map tree)

/-- The items of a sequence, every one read by the one reader. -/
def readItems {α : Type} (read : Tree → Except Fault α) : List Tree → Except Fault (List α)
  | [] => .ok []
  | tree :: rest => do
    let item ← read tree
    let items ← readItems read rest
    return item :: items

/-- A sequence. -/
def readSequence {α : Type} (read : Tree → Except Fault α) : Tree → Except Fault (List α)
  | .array items ending => do
    let items ← readItems read items
    readEnding ending
    return items
  | tree => .error (mismatch .sequence tree)

/-! ## Structures -/

/-- The value of a member that must not have been read before. -/
def once {α : Type} (name : String) (earlier : Option α) (read : Except Fault α) :
    Except Fault (Option α) :=
  if earlier.isSome then .error (.duplicateField name) else read.map some

/-- The value of a member that must have been read. -/
def required {α : Type} (name : String) : Option α → Except Fault α
  | some value => .ok value
  | none => .error (.missingField name)

/-- The members of an object, every one taken up into a draft of a structure. -/
def takeMembers {α : Type} (take : α → String → Tree → Except Fault α) :
    α → List (Option String × Tree) → Except Fault α
  | draft, [] => .ok draft
  | draft, (name, tree) :: rest => do
    let name ← readName name
    let draft ← take draft name tree
    takeMembers take draft rest

/-- The item at a place in the array form of a structure, if the array goes so far. -/
def itemAt? (items : List Tree) (ending : Ending) (place : Nat) : Except Fault (Option Tree) :=
  match items[place]? with
  | some tree => .ok (some tree)
  | none => do
    readEnding ending
    return none

/-- The end of the array form of a structure with a number of fields. -/
def readItemsEnd (items : List Tree) (ending : Ending) (fields : Nat) : Except Fault Unit :=
  if items.length ≤ fields then readEnding ending else .error .unreadable

end Json

end RecordStore
