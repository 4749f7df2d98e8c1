import TypedRecords.Json.Basic
import TypedRecords.Number.Shortest
import TypedRecords.Text.Quoted

/-!
# Values in messages

The literal of a value is how messages show it: texts quoted, arrays in square brackets and
objects in braces. Where a value stands for a text, a text is shown as it is.
-/

namespace TypedRecords.Json

mutual

/-- How a message shows a value. -/
def literal : Json → String
  | .null => "None"
  | .bool value => if value then "True" else "False"
  | .int value => toString value
  | .double value => value.text
  | .text value => quoted value
  | .array items => "[" ++ ", ".intercalate (itemLiterals items) ++ "]"
  | .object entries => "\x7b" ++ ", ".intercalate (entryLiterals entries) ++ "\x7d"
  | .foreign kind => kind.name

/-- The literals of the items of an array. -/
def itemLiterals : List Json → List String
  | [] => []
  | item :: rest => literal item :: itemLiterals rest

/-- The literals of the entries of an object, each with its quoted key. -/
def entryLiterals : List (String × Json) → List String
  | [] => []
  | (key, content) :: rest => (quoted key ++ ": " ++ literal content) :: entryLiterals rest

end

/-- The text that a value stands for: a text itself, and the literal of any other value. -/
def display : Json → String
  | .text value => value
  | value => value.literal

end TypedRecords.Json
