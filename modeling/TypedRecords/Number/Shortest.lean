import TypedRecords.Number.Double

/-!
# The decimal text of a double

A finite double is written with the fewest significant digits that read back to it, and of
those the digits nearest to it. `Shortest.digits` finds them by exact arithmetic: on the
decimal grid of each length in turn it looks at the two neighbours of the number, until one
lies among the reals that round to the number.

`Double.text` lays the digits out: positionally while the decimal exponent is at least `-4`
and below `16`, and with an exponent of at least two digits otherwise.
-/

namespace TypedRecords

/-- Digits of a positive decimal number, and the power of ten of the first of them. -/
structure DecimalDigits where
  digits : List Char
  leadingPower : Int

namespace Shortest

/-- The reals that round to a double, as multiples of a common unit. The ends belong to them
exactly when the significand is even. -/
structure Interval where
  centre : Nat
  low : Nat
  high : Nat
  closed : Bool

/-- The interval of the double with a given significand and exponent, counted in quarters of
a unit of the common scale. Below a power of two doubles lie twice as dense. -/
def interval (significand exponent : Nat) : Interval :=
  let unit := Nat.pow 2 exponent
  let narrow := significand == Nat.pow 2 (Double.precision - 1) && exponent != 0
  { centre := 4 * significand * unit
    low := if narrow then (4 * significand - 1) * unit else (4 * significand - 2) * unit
    high := (4 * significand + 2) * unit
    closed := significand % 2 == 0 }

/-- Whether the number `point / denominator` lies in the interval. -/
def Interval.contains (range : Interval) (point denominator : Nat) : Bool :=
  if range.closed then
    range.low * denominator ≤ point && point ≤ range.high * denominator
  else
    range.low * denominator < point && point < range.high * denominator

/-- The number of interval units that make up one. -/
def quartersPerOne : Nat :=
  4 * Quantity.unitsPerOne

/-- `10 ^ power` as a fraction. -/
def powerOfTen (power : Int) : Nat × Nat :=
  if 0 ≤ power then (Nat.pow 10 power.toNat, 1) else (1, Nat.pow 10 (-power).toNat)

/-- The largest power of ten that is at most `number / quartersPerOne`, searched downwards
from `start`. -/
def leadingPower (number : Nat) : Nat → Int → Int
  | 0, power => power
  | steps + 1, power =>
      let (numerator, denominator) := powerOfTen power
      if numerator * quartersPerOne ≤ number * denominator then power
      else leadingPower number steps (power - 1)

/-- The nearest of the two grid neighbours of the centre that lie in the interval, where the
grid is the multiples of `10 ^ power`. A tie goes to the even multiple. -/
def onGrid (range : Interval) (power : Int) : Option Nat :=
  let (numerator, denominator) := powerOfTen power
  let step := numerator * quartersPerOne
  let centre := range.centre * denominator
  let below := centre / step
  let above := below + 1
  let belowFits := range.contains (below * step) denominator
  let aboveFits := range.contains (above * step) denominator
  let belowDistance := centre - below * step
  let aboveDistance := above * step - centre
  if belowFits && aboveFits then
    if belowDistance < aboveDistance then some below
    else if aboveDistance < belowDistance then some above
    else some (if below % 2 = 0 then below else above)
  else if belowFits then some below
  else if aboveFits then some above
  else none

/-- The first of `remaining` grids, from that of `power` on to ever finer ones, that has a point
in the interval: the multiple and the power of ten that make the point. -/
def search (range : Interval) : Nat → Int → Option (Nat × Int)
  | 0, _ => none
  | remaining + 1, power =>
      match onGrid range power with
      | some multiple => some (multiple, power)
      | none => search range remaining (power - 1)

/-- The decimal digits of a natural number. -/
def decimalDigits (number : Nat) : List Char :=
  (toString number).toList

/-- The digits without trailing zeros, at least one being kept. -/
def withoutTrailingZeros (digits : List Char) : List Char :=
  match (digits.reverse.dropWhile (· == '0')).reverse with
  | [] => ['0']
  | kept => kept

/-- The number of digits that always suffice to tell one double from all others. -/
def maxDigits : Nat :=
  17

/-- The fewest digits that read back to the positive double with this significand and
exponent. -/
def digits (significand exponent : Nat) : DecimalDigits :=
  let range := interval significand exponent
  let leading := leadingPower range.centre 640 309
  match search range maxDigits leading with
  | some (multiple, power) =>
      let all := decimalDigits multiple
      { digits := withoutTrailingZeros all
        leadingPower := power + (all.length - 1 : Nat) }
  | none => { digits := ['0'], leadingPower := 0 }

end Shortest

namespace Double

/-- The range of decimal exponents that are written positionally. -/
def isPositional (leadingPower : Int) : Bool :=
  -4 ≤ leadingPower && leadingPower < 16

/-- The digits of an exponent, at least two. -/
def exponentDigits (exponent : Nat) : List Char :=
  let digits := Shortest.decimalDigits exponent
  List.replicate (2 - digits.length) '0' ++ digits

/-- The digits with a decimal point before the one of power `-1`; at least one digit stands
on either side of it. -/
def positional (decimal : DecimalDigits) : List Char :=
  match decimal.leadingPower with
  | .ofNat power =>
      let padded := decimal.digits ++ List.replicate (power + 1 - decimal.digits.length) '0'
      let fraction := padded.drop (power + 1)
      padded.take (power + 1) ++ ['.'] ++ (if fraction.isEmpty then ['0'] else fraction)
  | .negSucc power =>
      ['0', '.'] ++ List.replicate power '0' ++ decimal.digits

/-- The digits with the point after the first of them, and the power of that digit. -/
def scientific (decimal : DecimalDigits) : List Char :=
  let mantissa := match decimal.digits with
    | first :: second :: rest => first :: '.' :: second :: rest
    | short => short
  let sign := if decimal.leadingPower < 0 then '-' else '+'
  mantissa ++ ['e', sign] ++ exponentDigits decimal.leadingPower.natAbs

/-- The text of a finite double of the given sign, significand and exponent. -/
def finiteText (negative : Bool) (significand exponent : Nat) : String :=
  let decimal :=
    if significand = 0 then { digits := ['0'], leadingPower := 0 }
    else Shortest.digits significand exponent
  let body := if isPositional decimal.leadingPower then positional decimal else scientific decimal
  String.ofList (if negative then '-' :: body else body)

/-- The text of a double: its shortest digits, or the word for an infinity or for the
undefined value. -/
def text : Double → String
  | .finite negative significand exponent => finiteText negative significand exponent
  | .infinite negative => if negative then "-inf" else "inf"
  | .undefined => "nan"

end Double

end TypedRecords
