/-
# RecordStore.Number.Shortest — the fewest decimal digits that read back as a given double.

A finite double is written with the fewest significant digits whose value still rounds to it;
among equally short candidates the one nearest to the double is taken, and of two equally near the
one with an even last digit.

The double is an exact fraction `num / den`.  The reals that round to it form an interval, whose
ends belong to it when the significand is even.  The search looks at the grids of one, two, …,
seventeen significant digits in turn, and on each only at the two points next to the double: if
any point of a grid lies in the interval, then so does one of these.  On the seventeen digit grid
a point always does.
-/
import RecordStore.Number.Binary64

namespace RecordStore.Number.Shortest

/-- A positive decimal number `significand * 10 ^ exponent`. -/
structure Scientific where
  significand : Nat
  exponent : Int
deriving DecidableEq

/-- The reals that round to a positive double, together with the double itself, as fractions over
one denominator. -/
structure Interval where
  low : Nat
  exact : Nat
  high : Nat
  den : Nat
  closed : Bool

/-- The rounding interval of a positive finite magnitude, in quarters of its last place.  Below a
power of two the doubles lie twice as dense, so the lower end is then only half as far away. -/
def Interval.ofMagnitude (magnitude : Nat) : Interval :=
  let (m, q) := Binary64.scaled magnitude
  let below := if m = 2 ^ 52 ∧ 0 < q then 1 else 2
  { low := (4 * m - below) <<< q
    exact := (4 * m) <<< q
    high := (4 * m + 2) <<< q
    den := 4 * 2 ^ 1074
    closed := m % 2 = 0 }

/-- Whether the fraction `num / den` rounds to the double of the interval. -/
def Interval.holds (i : Interval) (num den : Nat) : Bool :=
  let point := num * i.den
  if i.closed then i.low * den ≤ point && point ≤ i.high * den
  else i.low * den < point && point < i.high * den

/-- The exponent of the power of ten that a positive fraction reaches but not exceeds tenfold. -/
def order (num den : Nat) : Int :=
  if den ≤ num then ((Nat.toDigits 10 (num / den)).length : Int) - 1
  else -((Nat.toDigits 10 ((den - 1) / num)).length : Int)

/-- The better of two neighbouring points of a grid: the nearer one to a double that lies `rest`
above the lower point on a grid of step `step`, the even one when both are equally near. -/
def nearer (lower rest step : Nat) : Nat :=
  if 2 * rest < step ∨ (2 * rest = step ∧ lower % 2 = 0) then lower else lower + 1

/-- The point of the grid of step `10 ^ exponent` that is to stand for the double of an interval,
when one of the two points next to the double rounds to it. -/
def onGrid? (i : Interval) (exponent : Int) : Option Nat :=
  let power := Decimal.powerOfTen exponent.natAbs
  let up := if exponent < 0 then 1 else power
  let down := if exponent < 0 then power else 1
  let step := up * i.den
  let lower := i.exact * down / step
  let rest := i.exact * down % step
  match i.holds (lower * up) down, i.holds ((lower + 1) * up) down with
  | true, true => some (nearer lower rest step)
  | true, false => some lower
  | false, true => some (lower + 1)
  | false, false => none

/-- A number without the zeros at the end of its significand, of which there are at most `limit`. -/
def strip : Nat → Scientific → Scientific
  | 0, s => s
  | limit + 1, s =>
    if s.significand % 10 = 0 then strip limit ⟨s.significand / 10, s.exponent + 1⟩ else s

/-- The first grid, from that of step `10 ^ exponent` on towards finer ones, that has a point for
the interval. -/
def search (i : Interval) : Nat → Int → Scientific
  | 0, exponent => ⟨0, exponent⟩
  | grids + 1, exponent =>
    match onGrid? i exponent with
    | some point => strip 17 ⟨point, exponent⟩
    | none => search i grids (exponent - 1)

/-- The shortest decimal number that reads back as a positive finite magnitude. -/
def ofMagnitude (magnitude : Nat) : Scientific :=
  let i := Interval.ofMagnitude magnitude
  search i 17 (order i.exact i.den)

end RecordStore.Number.Shortest
