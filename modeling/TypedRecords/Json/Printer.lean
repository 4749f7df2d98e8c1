import TypedRecords.Json.Basic
import TypedRecords.Number.Shortest
import TypedRecords.Text.Hex

/-!
# Writing JSON

The compact text of a value. Characters stand for themselves except the quote, the backslash
and the control characters. Infinities and the undefined double are written as the words that
the reader accepts for them, and a foreign value as null.
-/

namespace TypedRecords.Json

/-- One character inside a JSON text. -/
def escapedCharacter (character : Char) : List Char :=
  if character = '"' ∨ character = '\\' then ['\\', character]
  else if character.toNat < 0x20 then '\\' :: 'u' :: paddedHex 4 character.toNat
  else [character]

/-- A text between quotation marks, with its special characters escaped. -/
def renderText (text : String) : String :=
  String.ofList ('"' :: text.toList.flatMap escapedCharacter ++ ['"'])

/-- A double as a JSON number, or the word for one that is not finite. -/
def renderDouble : Double → String
  | .infinite negative => if negative then "-Infinity" else "Infinity"
  | .undefined => "NaN"
  | value => value.text

mutual

/-- The compact JSON text of a value. -/
def render : Json → String
  | .null => "null"
  | .bool value => if value then "true" else "false"
  | .int value => toString value
  | .double value => renderDouble value
  | .text value => renderText value
  | .array items => "[" ++ ",".intercalate (renderItems items) ++ "]"
  | .object entries => "\x7b" ++ ",".intercalate (renderEntries entries) ++ "\x7d"
  | .foreign _ => "null"

/-- The items of an array as they are printed. -/
def renderItems : List Json → List String
  | [] => []
  | item :: rest => render item :: renderItems rest

/-- The entries of an object as they are printed, without blanks. -/
def renderEntries : List (String × Json) → List String
  | [] => []
  | (key, content) :: rest => (renderText key ++ ":" ++ render content) :: renderEntries rest

end

end TypedRecords.Json
