import TypedRecords.Text.Blank

/-!
# Integers in texts

In the plain notation an integer is zero, or digits of which the first is not zero, after a minus
sign if the integer is negative. `integerText?` reads a lenient notation: white space at either
end, a plus sign, zeros in front, a fraction of zeros and single underscores between digits say
nothing about the integer. They are taken away one after the other, and what is left must be in
the plain notation.
-/

namespace TypedRecords

namespace IntegerText

/-- The natural number that digits spell, whatever the first of them is. -/
def digitsValue (digits : List Char) : Nat :=
  digits.foldl (fun value digit => 10 * value + (digit.toNat - '0'.toNat)) 0

/-- The natural number in plain notation: no zero in front but for zero itself. -/
def plainNatural? : List Char → Option Nat
  | [] => none
  | ['0'] => some 0
  | first :: rest =>
      if first != '0' && (first :: rest).all Char.isDigit then some (digitsValue (first :: rest))
      else none

/-- The integer in plain notation. -/
def plain? : List Char → Option Int
  | '-' :: digits => (plainNatural? digits).map fun number => -Int.ofNat number
  | digits => (plainNatural? digits).map Int.ofNat

/-- What follows zeros and underscores at the front, of which `passed` is the last so far. The
last one stays if a point or nothing follows. Only a point, a minus sign or another digit may
end them. -/
def afterZeros (passed : Char) : List Char → Option (List Char)
  | [] => some [passed]
  | next :: rest =>
      if next == '0' || next == '_' then afterZeros next rest
      else if next == '.' then some (passed :: next :: rest)
      else if next == '-' || next.isDigit then some (next :: rest)
      else none

/-- A number, which begins with a digit, without the zeros in front that say nothing. -/
def withoutLeadingZeros : List Char → Option (List Char)
  | [] => none
  | first :: rest =>
      if first == '0' then afterZeros first rest
      else if first.isDigit then some (first :: rest)
      else none

/-- The characters without the first point and what follows it, if that is at least one zero and
nothing else. -/
def withoutZeroFraction (characters : List Char) : List Char :=
  let whole := characters.takeWhile (· != '.')
  let fraction := (characters.dropWhile (· != '.')).drop 1
  if !fraction.isEmpty && fraction.all (· == '0') then whole else characters

/-- Whether underscores stand between other characters only, each by itself. -/
def isGrouped (characters : List Char) : Bool :=
  characters.head? != some '_' && characters.getLast? != some '_' &&
    (characters.zip characters.tail).all fun pair => pair != ('_', '_')

/-- The characters without the underscores that group them. -/
def withoutGrouping (characters : List Char) : List Char :=
  if isGrouped characters then characters.filter (· != '_') else characters

/-- The plain notation of a number without a sign of its own. -/
def simplified? (characters : List Char) : Option (List Char) :=
  (withoutLeadingZeros characters).map fun rest => withoutGrouping (withoutZeroFraction rest)

end IntegerText

/-- The integer that a text spells. -/
def integerText? (text : String) : Option Int := do
  match trimBlank text.toList with
  | '-' :: rest => IntegerText.plain? ('-' :: (← IntegerText.simplified? rest))
  | '+' :: rest => IntegerText.plain? (← IntegerText.simplified? rest)
  | rest => IntegerText.plain? (← IntegerText.simplified? rest)

end TypedRecords
