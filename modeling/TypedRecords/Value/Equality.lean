import TypedRecords.Value.Basic

/-!
# Equality and order of values

`Value.same` is equality of contents: numbers are equal when they are the same number, a truth
value counts as zero or one, moments are equal when their instants are, and the order of the
entries of an object does not matter.

`Value.equals` compares a field with an operand. It differs from `Value.same` only in that a
truth value on one side alone never equals anything; inside arrays and objects it still counts
as a number.

`Value.compare?` orders numbers, texts, moments and truth values among themselves.
-/

namespace TypedRecords.Value

/-- The number that a value counts as; a truth value counts as zero or one. -/
def quantity? : Value → Option Quantity
  | .bool value => some (Quantity.ofInt (if value then 1 else 0))
  | .int value => some (Quantity.ofInt value)
  | .double value => value.quantity?
  | _ => none

/-- Whether both values count as numbers, and as the same one. -/
def sameNumber (left right : Value) : Bool :=
  match left.quantity?, right.quantity? with
  | some left, some right => left == right
  | _, _ => false

mutual

/-- Whether two values have the same contents. -/
def same : Value → Value → Bool
  | .null, .null => true
  | .text left, .text right => left == right
  | .date left, .date right => left.instant == right.instant
  | .pointer left, .pointer right => left == right
  | .array left, .array right => sameItems left right
  | .object left, .object right => left.length == right.length && sameEntries left right
  | .foreign left, .foreign right => left == right
  | left, right => sameNumber left right

/-- Whether two lists have the same values at the same places. -/
def sameItems : List Value → List Value → Bool
  | [], [] => true
  | left :: lefts, right :: rights => same left right && sameItems lefts rights
  | _, _ => false

/-- Whether every entry of the first list has a partner with the same contents in the
second. -/
def sameEntries : List (String × Value) → List (String × Value) → Bool
  | [], _ => true
  | (key, left) :: rest, rights =>
      (match rights.lookup key with
        | some right => same left right
        | none => false) && sameEntries rest rights

end

/-- Whether two values are the same and both or neither of them are truth values. What stands inside
of them is not guarded in this way. -/
def equals (left right : Value) : Bool :=
  left.isBool == right.isBool && same left right

/-- Whether a field matches an operand: it equals it, or it is an array with an element that
does while the operand is no array. -/
def matchesOperand (value operand : Value) : Bool :=
  value.equals operand ||
    match value with
    | .array items => !operand.isArray && items.any (·.equals operand)
    | _ => false

/-- The results of a comparison: less, equal or greater, or neither for the undefined
double. -/
inductive Comparison where
  | less
  | equal
  | greater
  | unordered
deriving DecidableEq

/-- The comparison of two numbers. -/
def compareQuantities (left right : Quantity) : Comparison :=
  if left.lt right then .less else if right.lt left then .greater else .equal

/-- The comparison of two numbers that may be undefined. -/
def compareNumbers (left right : Value) : Comparison :=
  match left.quantity?, right.quantity? with
  | some left, some right => compareQuantities left right
  | _, _ => .unordered

/-- The comparison of two integers. -/
def compareInts (left right : Int) : Comparison :=
  if left < right then .less else if right < left then .greater else .equal

/-- The comparison of two texts by their code points. -/
def compareTexts (left right : String) : Comparison :=
  if left < right then .less else if right < left then .greater else .equal

/-- Whether a value is a number; truth values are none. -/
def isNumber : Value → Bool
  | .int _ | .double _ => true
  | _ => false

/-- The comparison of two values of one ordered kind; there is none across kinds. -/
def compare? : Value → Value → Option Comparison
  | .bool left, .bool right => some (compareInts left.toInt right.toInt)
  | .text left, .text right => some (compareTexts left right)
  | .date left, .date right => some (compareInts left.instant right.instant)
  | left, right =>
      if left.isNumber && right.isNumber then some (compareNumbers left right) else none

end TypedRecords.Value
