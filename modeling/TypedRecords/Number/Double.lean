/-!
# Double-precision numbers

A `Double` is a number of the binary64 format: a sign, a significand below `2 ^ 53` and an
exponent, an infinity, or the undefined value. Every finite double is a whole multiple of
`2 ^ (-1074)`, and so is every integer; `Quantity` is the resulting common scale, on which
integers and doubles are compared exactly.

`Double.ofDecimal` is the double nearest to a decimal number, ties going to the even
significand.
-/

namespace TypedRecords

/-- A point of the number line, measured in units of `2 ^ (-1074)`, or one of its two ends. -/
inductive Quantity where
  | minusInfinity
  | units (count : Int)
  | plusInfinity
deriving DecidableEq

namespace Quantity

/-- The number of units that make up one. -/
def unitsPerOne : Nat :=
  Nat.pow 2 1074

/-- The integer `number` on the common scale. -/
def ofInt (number : Int) : Quantity :=
  .units (number * unitsPerOne)

/-- The strict order of the number line. -/
def lt : Quantity → Quantity → Bool
  | .minusInfinity, .minusInfinity => false
  | .minusInfinity, _ => true
  | .units _, .minusInfinity => false
  | .units left, .units right => decide (left < right)
  | .units _, .plusInfinity => true
  | .plusInfinity, _ => false

theorem lt_irrefl (quantity : Quantity) : quantity.lt quantity = false := by
  cases quantity <;> simp [lt]

theorem lt_trans {first second third : Quantity} (below : first.lt second = true)
    (above : second.lt third = true) : first.lt third = true := by
  cases first <;> cases second <;> cases third <;> simp_all [lt]
  omega

/-- Two places on the number line are the same, or one is before the other. -/
theorem eq_or_lt_or_lt (left right : Quantity) :
    left = right ∨ left.lt right = true ∨ right.lt left = true := by
  cases left <;> cases right <;> simp [lt]
  omega

end Quantity

/-- A double-precision number. The finite number with a given significand and exponent is
`significand * 2 ^ exponent` units of `2 ^ (-1074)`. -/
inductive Double where
  | finite (negative : Bool) (significand exponent : Nat)
  | infinite (negative : Bool)
  | undefined
deriving DecidableEq

namespace Double

/-- The number of binary digits of a full significand. -/
def precision : Nat :=
  53

/-- The exponent of the largest finite doubles. -/
def maxExponent : Nat :=
  2045

/-- The place of a double on the common scale; the undefined value has none. -/
def quantity? : Double → Option Quantity
  | .finite negative significand exponent =>
      let count : Int := (significand * Nat.pow 2 exponent : Nat)
      some (.units (if negative then -count else count))
  | .infinite negative => some (if negative then .minusInfinity else .plusInfinity)
  | .undefined => none

/-- Whether the double is one of the two zeros. -/
def isZero : Double → Bool
  | .finite _ significand _ => significand == 0
  | _ => false

/-- Whether the double is a number and not infinite. -/
def isFinite : Double → Bool
  | .finite _ _ _ => true
  | _ => false

/-- The integer equal to a double, if there is one. -/
def toInt? : Double → Option Int
  | .finite negative significand exponent =>
      let count := significand * Nat.pow 2 exponent
      if count % Quantity.unitsPerOne = 0 then
        let whole : Int := (count / Quantity.unitsPerOne : Nat)
        some (if negative then -whole else whole)
      else
        none
  | _ => none

/-- The quotient of two natural numbers rounded to the nearest integer, a half going to the
even neighbour. -/
def roundQuotient (numerator denominator : Nat) : Nat :=
  let below := numerator / denominator
  let twiceRest := 2 * (numerator % denominator)
  if twiceRest < denominator then below
  else if denominator < twiceRest then below + 1
  else below + below % 2

/-- The number of binary digits of a natural number. -/
def binaryDigits (number : Nat) : Nat :=
  if number = 0 then 0 else Nat.log2 number + 1

/-- The double nearest to `numerator / denominator`. -/
def ofQuotient (negative : Bool) (numerator denominator : Nat) : Double :=
  let scaled := numerator * Quantity.unitsPerOne
  let exponent := binaryDigits (scaled / denominator) - precision
  let significand := roundQuotient scaled (denominator * Nat.pow 2 exponent)
  let carried := significand == Nat.pow 2 precision
  let exponent := if carried then exponent + 1 else exponent
  let significand := if carried then Nat.pow 2 (precision - 1) else significand
  if maxExponent < exponent then .infinite negative
  else .finite negative significand exponent

/-- The zero of the given sign. -/
def zero (negative : Bool) : Double :=
  .finite negative 0 0

/-- The double nearest to `digits * 10 ^ power`. Numbers from `10 ^ 310` on are infinite and
numbers below `10 ^ (-330)` are zero, so no larger power of ten is ever computed. -/
def ofDecimal (negative : Bool) (digits : Nat) (power : Int) : Double :=
  let magnitude := power + (toString digits).length
  if digits = 0 ∨ magnitude < -330 then zero negative
  else if 310 < magnitude then .infinite negative
  else if 0 ≤ power then ofQuotient negative (digits * Nat.pow 10 power.toNat) 1
  else ofQuotient negative digits (Nat.pow 10 (-power).toNat)

end Double

end TypedRecords
