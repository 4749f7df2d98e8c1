import TypedRecords.Json.Key
import TypedRecords.Text.Integer
import TypedRecords.Text.Lowercase

/-!
# Shapes of answer fields

The answer of an operation is an object of fields, each with a shape that its value must have.
Checking a value gives it in the form in which it is sent, or the issues found in it, each with
the place where it was found.

Numbers and truth values are also read from texts and from each other where nothing is lost. A
double has to lie inside the signed words of 64 bits for this, and so has an integer that is read
as a truth value; an integer that is wanted as such may be of any size.
-/

namespace TypedRecords.Answer

/-- Something wrong with a value, and where. -/
structure Issue where
  location : List String
  kind : String

namespace Issue

/-- The issue as seen from outside the value under a key. -/
def under (key : String) (issue : Issue) : Issue :=
  { issue with location := key :: issue.location }

/-- The issue in a message. -/
def describe (issue : Issue) : String :=
  ".".intercalate issue.location ++ ": " ++ issue.kind

end Issue

/-- The outcome of a check: a result, or every issue that was found on the way. -/
abbrev Checked (Result : Type) := Except (List Issue) Result

/-- The outcome of a check that found one issue, at the value itself. -/
def issue {Result : Type} (kind : String) : Checked Result :=
  .error [{ location := [], kind }]

/-- Move the issues of a check under a key. -/
def Checked.under {Result : Type} (key : String) (checked : Checked Result) : Checked Result :=
  checked.mapError fun issues => issues.map (Issue.under key)

/-- Both results, or the issues of both checks. -/
def Checked.both {First Second : Type} (first : Checked First) (second : Checked Second) :
    Checked (First × Second) :=
  match first, second with
  | .ok first, .ok second => .ok (first, second)
  | .error issues, .ok _ => .error issues
  | .ok _, .error issues => .error issues
  | .error issues, .error more => .error (issues ++ more)

/-- All results, or the issues of all checks. -/
def Checked.all {Result : Type} : List (Checked Result) → Checked (List Result)
  | [] => .ok []
  | first :: rest => (first.both (Checked.all rest)).map fun (result, results) => result :: results

/-- The shape of a value: the check that gives it in the form in which it is sent. -/
abbrev Shape := Json → Checked Json

/-- The texts in lower case that a flag reads as true. -/
def trueTexts : List String :=
  ["1", "on", "t", "true", "y", "yes"]

/-- The texts in lower case that a flag reads as false. -/
def falseTexts : List String :=
  ["0", "off", "f", "false", "n", "no"]

/-- The first integer that is too large for a signed word of 64 bits. -/
def wordLimit : Int :=
  (Nat.pow 2 63 : Nat)

/-- Whether an integer fits into a signed word. -/
def fitsWord (value : Int) : Bool :=
  decide (-wordLimit ≤ value ∧ value < wordLimit)

/-- Whether a double equal to the integer is read as one. Neither bound is, because a double at a
bound may stand for a number beyond it. -/
def isInsideWord (value : Int) : Bool :=
  decide (-wordLimit < value ∧ value < wordLimit)

/-- The truth value that an integer stands for. -/
def flagOfInt (value : Int) : Checked Bool :=
  if value = 0 then .ok false
  else if value = 1 then .ok true
  else issue "bool_parsing"

/-- The truth value that a value stands for: itself, one of the known texts, or the number 0 or
1. -/
def checkFlag (value : Json) : Checked Bool :=
  match value with
  | .bool value => .ok value
  | .text value =>
      let lowered := lowercase value
      if falseTexts.contains lowered then .ok false
      else if trueTexts.contains lowered then .ok true
      else issue "bool_parsing"
  | .int value => if fitsWord value then flagOfInt value else issue "bool_type"
  | .double value =>
      match value.toInt? with
      | some value => if isInsideWord value then flagOfInt value else issue "bool_type"
      | none => issue "bool_type"
  | .foreign .bytes => issue "bool_parsing"
  | _ => issue "bool_type"

/-- The integer that a value stands for, be it a truth value, a text of digits or a double without a
fraction. -/
def checkCount (value : Json) : Checked Int :=
  match value with
  | .int value => .ok value
  | .bool value => .ok value.toInt
  | .text value =>
      match integerText? value with
      | some value => .ok value
      | none => issue "int_parsing"
  | .double value =>
      match value.toInt? with
      | some value => if isInsideWord value then .ok value else issue "int_parsing_size"
      | none => issue (if value.isFinite then "int_from_float" else "finite_number")
  | .foreign .bytes => issue "int_parsing"
  | _ => issue "int_type"

mutual

/-- A value in the form in which it is sent: numbers that are not finite become null. -/
def sendable : Json → Json
  | .double value => if value.isFinite then .double value else .null
  | .array items => .array (sendableItems items)
  | .object entries => .object (sendableEntries entries)
  | value => value

/-- The items of an array in the form in which they are sent. -/
def sendableItems : List Json → List Json
  | [] => []
  | item :: rest => sendable item :: sendableItems rest

/-- The entries of an object in the form in which they are sent. -/
def sendableEntries : List (String × Json) → List (String × Json)
  | [] => []
  | (key, content) :: rest => (key, sendable content) :: sendableEntries rest

end

namespace Shape

/-- The shape of a truth value. -/
def flag : Shape := fun value =>
  (checkFlag value).map Json.bool

/-- The shape of an integer. -/
def count : Shape := fun value =>
  (checkCount value).map Json.int

/-- The shape of a text, which nothing else stands for. -/
def text : Shape := fun value =>
  match value with
  | .text _ => .ok value
  | _ => issue "string_type"

/-- The shape of a text that may be null instead. -/
def optionalText : Shape := fun value =>
  if value.isNull then .ok .null else text value

/-- The shape of an object with any contents. -/
def object : Shape := fun value =>
  match value with
  | .object _ => .ok (sendable value)
  | _ => issue "dict_type"

/-- The shape of an array whose items have a shape; an issue of an item stands under its index. -/
def listOf (shape : Shape) : Shape := fun value =>
  match value with
  | .array items =>
      (Checked.all (items.zipIdx.map fun (item, index) =>
        (shape item).under (toString index))).map Json.array
  | _ => issue "list_type"

/-- The shape of an object whose contents have a shape; an issue of a content stands under its
key. -/
def tableOf (shape : Shape) : Shape := fun value =>
  match value with
  | .object entries =>
      (Checked.all (entries.map fun (key, content) =>
        ((shape content).under key).map fun checked => (key, checked))).map Json.object
  | _ => issue "dict_type"

end Shape

/-- How the place of a key that need not be a text is written. -/
def keyLocation (name : Json) : String :=
  match name with
  | .text name => name
  | .bool value => toString value.toInt
  | value => value.literal

/-- Check that the name of a flag is a text. -/
def checkFlagName (name : Json) : Checked String :=
  match name with
  | .text name => .ok name
  | _ => Checked.under "[key]" (issue "string_type")

/-- The flags of a mapping, each with a text as its name. -/
def checkFlags (mapping : Mapping) : Checked (List (String × Bool)) :=
  Checked.all (mapping.map fun (name, content) =>
    (Checked.both (checkFlagName name) (checkFlag content)).under (keyLocation name))

end TypedRecords.Answer
