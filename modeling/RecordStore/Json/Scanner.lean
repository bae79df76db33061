/-
# RecordStore.Json.Scanner — from text to tokens.

The scanner is a machine that takes one symbol at a time: `step` gives the tokens that a symbol
completes and the phase after it, `finish` what the end of the text completes.  A symbol is a
character, or `none` for an octet that is not part of any character; such octets are tolerated
inside strings, whose content is then unknown, and nowhere else.

Where a text stops being JSON the machine emits `junk` and stops, so a scanned list has at most
one `junk`, at its end.  A complete literal ends where its last letter stands and a number where
it cannot go on, whatever follows: `truex` is the literal and then junk.  A number that breaks off
(`1.`, `-`, `01`) is junk itself.

A string may write a character as escaped UTF-16 code units.  A high surrogate must be followed at
once by an escaped low one; a string with a surrogate that has no partner has no content.
-/
import RecordStore.Json.Token

namespace RecordStore

namespace Json

/-! ## Pieces of strings -/

/-- A part of a string: a character, an escaped code unit, or an octet outside every character. -/
inductive Piece where
  | char (c : Char)
  | unit (code : Nat)
  | stray
deriving DecidableEq

/-- The character that two surrogate code units write together. -/
def pairedChar (high low : Nat) : Char :=
  Char.ofNat (0x10000 + (high - 0xD800) * 0x400 + (low - 0xDC00))

/-- The characters that a list of pieces writes, added in reverse to those before them. -/
def joinOnto : List Char → List Piece → Option (List Char)
  | done, [] => some done.reverse
  | done, .char c :: rest => joinOnto (c :: done) rest
  | _, .stray :: _ => none
  | done, .unit code :: rest =>
    if 0xD800 ≤ code ∧ code < 0xDC00 then
      match rest with
      | .unit low :: rest =>
        if 0xDC00 ≤ low ∧ low < 0xE000 then joinOnto (pairedChar code low :: done) rest else none
      | _ => none
    else if 0xDC00 ≤ code ∧ code < 0xE000 then none
    else joinOnto (Char.ofNat code :: done) rest

/-- The string that a list of pieces writes, if it is a sequence of characters. -/
def content (pieces : List Piece) : Option String := (joinOnto [] pieces).map String.ofList

/-! ## Numbers -/

/-- How far a number has been read, named for its last symbol. -/
inductive NumberPhase where
  | minus | zero | whole | point | fraction | mark | markSign | exponent
deriving DecidableEq

/-- Whether a number may end in a phase. -/
def NumberPhase.mayEnd : NumberPhase → Bool
  | .zero | .whole | .fraction | .exponent => true
  | _ => false

/-- The phase after a further symbol of the number, if the number goes on with it. -/
def NumberPhase.next? : NumberPhase → Char → Option NumberPhase
  | .minus, c => if c = '0' then some .zero else if c.isDigit then some .whole else none
  | .zero, c => if c = '.' then some .point else if c = 'e' ∨ c = 'E' then some .mark else none
  | .whole, c =>
    if c.isDigit then some .whole else if c = '.' then some .point
    else if c = 'e' ∨ c = 'E' then some .mark else none
  | .point, c => if c.isDigit then some .fraction else none
  | .fraction, c =>
    if c.isDigit then some .fraction else if c = 'e' ∨ c = 'E' then some .mark else none
  | .mark, c =>
    if c = '+' ∨ c = '-' then some .markSign else if c.isDigit then some .exponent else none
  | .markSign, c => if c.isDigit then some .exponent else none
  | .exponent, c => if c.isDigit then some .exponent else none

/-- Whether a number that does not go on with a symbol is whole before it.  A zero must not be
followed by a digit. -/
def NumberPhase.endsBefore (p : NumberPhase) (c : Option Char) : Bool :=
  p.mayEnd && !(p = .zero && c.any Char.isDigit)

/-! ## The machine -/

/-- Where the scanner stands.  What has been read of a token is kept in reverse. -/
inductive Phase where
  | between
  | word (rest : List Char) (token : Token)
  | number (phase : NumberPhase) (lexeme : List Char)
  | string (pieces : List Piece)
  | escape (pieces : List Piece)
  | hex (left : Nat) (code : Nat) (pieces : List Piece)
  | stopped
deriving DecidableEq

/-- Whether a character is one of JSON's four blanks. -/
def isBlank (c : Char) : Bool := c = ' ' || c = '\n' || c = '\t' || c = '\r'

/-- The number that a hexadecimal digit of either case stands for. -/
def hexValue? (c : Char) : Option Nat :=
  if c.isDigit then some (c.toNat - 48)
  else if 'a' ≤ c ∧ c ≤ 'f' then some (c.toNat - 87)
  else if 'A' ≤ c ∧ c ≤ 'F' then some (c.toNat - 55)
  else none

/-- The character that a reverse solidus and a letter write. -/
def unescaped? (c : Char) : Option Char :=
  if c = '"' then some '"'
  else if c = '\\' then some '\\'
  else if c = '/' then some '/'
  else if c = 'b' then some '\x08'
  else if c = 'f' then some '\x0c'
  else if c = 'n' then some '\n'
  else if c = 'r' then some '\r'
  else if c = 't' then some '\t'
  else none

/-- The step from between two tokens. -/
def start : Option Char → List Token × Phase
  | none => ([.junk], .stopped)
  | some c =>
    if isBlank c then ([], .between)
    else if c = '[' then ([.openArray], .between)
    else if c = ']' then ([.closeArray], .between)
    else if c = '\x7b' then ([.openObject], .between)
    else if c = '\x7d' then ([.closeObject], .between)
    else if c = ',' then ([.comma], .between)
    else if c = ':' then ([.colon], .between)
    else if c = '"' then ([], .string [])
    else if c = '-' then ([], .number .minus ['-'])
    else if c = '0' then ([], .number .zero ['0'])
    else if c.isDigit then ([], .number .whole [c])
    else if c = 'n' then ([], .word ['u', 'l', 'l'] .null)
    else if c = 't' then ([], .word ['r', 'u', 'e'] (.bool true))
    else if c = 'f' then ([], .word ['a', 'l', 's', 'e'] (.bool false))
    else ([.junk], .stopped)

/-- The step that one symbol makes. -/
def step : Phase → Option Char → List Token × Phase
  | .between, c => start c
  | .word (w :: rest) token, c =>
    if c = some w then
      if rest = [] then ([token], .between) else ([], .word rest token)
    else ([.junk], .stopped)
  | .word [] _, _ => ([.junk], .stopped)
  | .number phase lexeme, c =>
    match c.bind fun d => (phase.next? d).map (·, d) with
    | some (next, d) => ([], .number next (d :: lexeme))
    | none =>
      if phase.endsBefore c then
        let (out, after) := start c
        (.number lexeme.reverse :: out, after)
      else ([.junk], .stopped)
  | .string pieces, none => ([], .string (.stray :: pieces))
  | .string pieces, some c =>
    if c = '"' then ([.text (content pieces.reverse)], .between)
    else if c = '\\' then ([], .escape pieces)
    else if c.toNat < 0x20 then ([.junk], .stopped)
    else ([], .string (.char c :: pieces))
  | .escape pieces, c =>
    if c = some 'u' then ([], .hex 4 0 pieces)
    else match c.bind unescaped? with
      | some d => ([], .string (.char d :: pieces))
      | none => ([.junk], .stopped)
  | .hex left code pieces, c =>
    match c.bind hexValue? with
    | some d =>
      if left ≤ 1 then ([], .string (.unit (16 * code + d) :: pieces))
      else ([], .hex (left - 1) (16 * code + d) pieces)
    | none => ([.junk], .stopped)
  | .stopped, _ => ([], .stopped)

/-- What the end of the text completes. -/
def finish : Phase → List Token
  | .between | .stopped => []
  | .number phase lexeme => if phase.mayEnd then [.number lexeme.reverse] else [.junk]
  | _ => [.junk]

/-- The tokens of a text read from a phase on, after those already found, which are in reverse. -/
def scanOnto (found : List Token) : Phase → List (Option Char) → List Token
  | phase, [] => ((finish phase).reverse ++ found).reverse
  | phase, c :: rest =>
    let (out, after) := step phase c
    scanOnto (out.reverse ++ found) after rest

/-- The tokens of a text. -/
def scan (text : List (Option Char)) : List Token := scanOnto [] .between text

/-! ## The machine as an equation -/

/-- The tokens of a text read from a phase on. -/
def scanFrom : Phase → List (Option Char) → List Token
  | phase, [] => finish phase
  | phase, c :: rest => (step phase c).1 ++ scanFrom (step phase c).2 rest

theorem scanOnto_eq (found : List Token) (phase : Phase) (text : List (Option Char)) :
    scanOnto found phase text = found.reverse ++ scanFrom phase text := by
  induction text generalizing found phase with
  | nil => simp [scanOnto, scanFrom]
  | cons c rest ih => simp [scanOnto, scanFrom, ih]

theorem scan_eq_scanFrom (text : List (Option Char)) : scan text = scanFrom .between text := by
  simp [scan, scanOnto_eq]

end Json

end RecordStore
