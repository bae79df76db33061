/-
# RecordStore.Text.Utf8 — characters out of octets.

`decode` reads a sequence of octets as UTF-8.  Every octet that is part of a well formed sequence
contributes to a character, and every other one stands for itself as `none`, so that a reader can
decide whether it matters.  The well formed sequences are those of the Unicode standard: shortest
form only, no surrogates, nothing above 0x10FFFF.  An octet that breaks a sequence off is looked
at again as the start of another, so text around a damaged spot is read as it stands.
-/

namespace RecordStore.Text.Utf8

/-- Where the decoder stands: between characters, or inside one with the number of octets seen, the
code so far, the number of octets to come, and the bounds of the next one. -/
inductive Phase where
  | between
  | inside (seen code left low high : Nat)
deriving DecidableEq

/-- The step that an octet makes between characters. -/
def start (octet : Nat) : List (Option Char) × Phase :=
  if octet < 0x80 then ([some (Char.ofNat octet)], .between)
  else if octet < 0xC2 then ([none], .between)
  else if octet < 0xE0 then ([], .inside 1 (octet - 0xC0) 1 0x80 0xBF)
  else if octet = 0xE0 then ([], .inside 1 0 2 0xA0 0xBF)
  else if octet = 0xED then ([], .inside 1 0xD 2 0x80 0x9F)
  else if octet < 0xF0 then ([], .inside 1 (octet - 0xE0) 2 0x80 0xBF)
  else if octet = 0xF0 then ([], .inside 1 0 3 0x90 0xBF)
  else if octet < 0xF4 then ([], .inside 1 (octet - 0xF0) 3 0x80 0xBF)
  else if octet = 0xF4 then ([], .inside 1 4 3 0x80 0x8F)
  else ([none], .between)

/-- The step that an octet makes: the symbols it completes, and the phase after it. -/
def step : Phase → UInt8 → List (Option Char) × Phase
  | .between, octet => start octet.toNat
  | .inside seen code left low high, octet =>
    if low ≤ octet.toNat ∧ octet.toNat ≤ high then
      let code := code * 0x40 + (octet.toNat - 0x80)
      if left ≤ 1 then ([some (Char.ofNat code)], .between)
      else ([], .inside (seen + 1) code (left - 1) 0x80 0xBF)
    else
      let (out, after) := start octet.toNat
      (List.replicate seen none ++ out, after)

/-- The symbols that the end of the octets completes. -/
def finish : Phase → List (Option Char)
  | .between => []
  | .inside seen _ _ _ _ => List.replicate seen none

/-- The symbols of octets read from a phase on, after those already found, which are in reverse. -/
def decodeOnto (found : List (Option Char)) : Phase → List UInt8 → List (Option Char)
  | phase, [] => ((finish phase).reverse ++ found).reverse
  | phase, octet :: rest =>
    let (out, after) := step phase octet
    decodeOnto (out.reverse ++ found) after rest

/-- The symbols of a sequence of octets. -/
def decode (octets : List UInt8) : List (Option Char) := decodeOnto [] .between octets

/-- The symbols of octets read from a phase on. -/
def decodeFrom : Phase → List UInt8 → List (Option Char)
  | phase, [] => finish phase
  | phase, octet :: rest => (step phase octet).1 ++ decodeFrom (step phase octet).2 rest

theorem decodeOnto_eq (found : List (Option Char)) (phase : Phase) (octets : List UInt8) :
    decodeOnto found phase octets = found.reverse ++ decodeFrom phase octets := by
  induction octets generalizing found phase with
  | nil => simp [decodeOnto, decodeFrom]
  | cons octet rest ih => simp [decodeOnto, decodeFrom, ih]

theorem decode_eq_decodeFrom (octets : List UInt8) :
    decode octets = decodeFrom .between octets := by
  simp [decode, decodeOnto_eq]

/-! ## Characters of one octet, and damaged sequences -/

theorem step_between_ascii {octet : UInt8} (h : octet < 0x80) :
    step .between octet = ([some (Char.ofNat octet.toNat)], .between) := by
  have hn : octet.toNat < 0x80 := UInt8.lt_iff_toNat_lt.mp h
  rw [step, start, if_pos hn]

/-- Octets below 0x80 are the characters of their codes. -/
theorem decode_ascii {octets : List UInt8} (h : ∀ octet ∈ octets, octet < 0x80) :
    decode octets = octets.map fun octet => some (Char.ofNat octet.toNat) := by
  rw [decode_eq_decodeFrom]
  induction octets with
  | nil => rfl
  | cons octet rest ih =>
    have hstep := step_between_ascii (h octet List.mem_cons_self)
    simp [decodeFrom, hstep, ih fun other ho => h other (List.mem_cons_of_mem _ ho)]

/-- A shortest form is read; an overlong one and a surrogate are not; a letter that breaks a
sequence off is read as itself. -/
example :
    decode [0xE2, 0x82, 0xAC] = [some '€'] ∧
      decode [0xC0, 0x80] = [none, none] ∧
      decode [0xED, 0xA0, 0x80] = [none, none, none] ∧
      decode [0xE2, 0x82, 0x41] = [none, none, some 'A'] := by decide

end RecordStore.Text.Utf8
