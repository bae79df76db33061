/-
# RecordStore.Text.Quoted — strings as messages quote them.

A quoted string stands between quotation marks.  Inside, the quotation mark and the reverse
solidus are escaped, the common control characters have letters, and every other character that
does not show on its own is written by its code point in lower case hexadecimal digits between
braces.
-/
import RecordStore.Text.Printable

namespace RecordStore.Text

/-- How one character is written inside a quoted string. -/
def shown (c : Char) : List Char :=
  if c = '\x00' then ['\\', '0']
  else if c = '\t' then ['\\', 't']
  else if c = '\n' then ['\\', 'n']
  else if c = '\r' then ['\\', 'r']
  else if c = '"' then ['\\', '"']
  else if c = '\\' then ['\\', '\\']
  else if isExtender c || !isPrintable c then
    '\\' :: 'u' :: '\x7b' :: Nat.toDigits 16 c.toNat ++ ['\x7d']
  else [c]

/-- A string between quotation marks, in characters that show. -/
def quote (s : String) : String := String.ofList ('"' :: s.toList.flatMap shown ++ ['"'])

/-- A letter shows as itself, a delete character by its code, a quotation mark behind a reverse
solidus. -/
example :
    shown 'a' = ['a'] ∧ shown '\x7f' = "\\u\x7b7f\x7d".toList ∧ shown '"' = ['\\', '"'] := by
  decide +kernel

end RecordStore.Text
