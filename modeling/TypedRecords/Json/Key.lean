import TypedRecords.Failure

/-!
# Keys

Classes, records and operations are looked up by keys. Any atomic value can be a key; an array,
an object or a set cannot. Two numbers are the same key when they are the same number, and a
truth value is the same key as zero or one.

`Mapping` is what callers may pass in place of an object: an object, or a list of pairs.
-/

namespace TypedRecords

/-- What a value is looked up by. -/
inductive Key where
  | null
  | number (value : Quantity)
  | undefined
  | text (value : String)
  | foreign (kind : ForeignKind)
deriving DecidableEq

/-- The key that a value is. Numbers that are equal are one key, truth values among them, and values
with contents are none. -/
def Json.key : Json → Except HostError Key
  | .null => .ok .null
  | .bool value => .ok (.number (Quantity.ofInt (if value then 1 else 0)))
  | .int value => .ok (.number (Quantity.ofInt value))
  | .double value => .ok (match value.quantity? with
      | some quantity => .number quantity
      | none => .undefined)
  | .text value => .ok (.text value)
  | .foreign .set => .error (.notAKey ForeignKind.set.name)
  | .foreign kind => .ok (.foreign kind)
  | .array items => .error (.notAKey (Json.array items).typeName)
  | .object entries => .error (.notAKey (Json.object entries).typeName)

/-- Pairs of keys and contents, in the order in which the keys first came. -/
abbrev Mapping := List (Json × Json)

namespace Mapping

/-- Give a key the content, in its place or at the end. -/
def set (mapping : Mapping) (name : Json) (key : Key) (content : Json) :
    Except HostError Mapping :=
  match mapping with
  | [] => .ok [(name, content)]
  | (present, old) :: rest => do
      if (← present.key) = key then return (present, content) :: rest
      else return (present, old) :: (← set rest name key content)

/-- The error about an item that is no pair, because it has another length. -/
def wrongLength (index length : Nat) : HostError :=
  { kind := .badValue
    message := "dictionary update sequence element #" ++ toString index ++ " has length " ++
      toString length ++ "; 2 is required" }

/-- The error about an item that is no pair, because it has no items. -/
def notASequence (index : Nat) : HostError :=
  { kind := .badType
    message := "cannot convert dictionary update sequence element #" ++ toString index ++
      " to a sequence" }

/-- The items of a value that can stand for a pair: those of an array, the characters of a
text, or the keys of an object. -/
def itemsOf? : Json → Option (List Json)
  | .array items => some items
  | .text value => some (value.toList.map fun character => .text (String.singleton character))
  | .object entries => some (entries.map fun entry => .text entry.1)
  | _ => none

/-- The mapping of a list of pairs, the first of which has the given index. -/
def ofItems (mapping : Mapping) (index : Nat) : List Json → Except HostError Mapping
  | [] => .ok mapping
  | item :: rest =>
      match itemsOf? item with
      | none => .error (notASequence index)
      | some [name, content] => do
          let key ← name.key
          let mapping ← mapping.set name key content
          ofItems mapping (index + 1) rest
      | some items => .error (wrongLength index items.length)

/-- The mapping that a value is turned into, if it is an object or consists of pairs. -/
def convert (value : Json) : Except HostError Mapping :=
  match value with
  | .object entries => .ok (entries.map fun entry => (.text entry.1, entry.2))
  | .array items => ofItems [] 0 items
  | .text value => if value.isEmpty then .ok [] else .error (wrongLength 0 1)
  | .foreign .bytes => .error (notASequence 0)
  | .foreign .set => .error (notASequence 0)
  | _ => .error {
      kind := .badType
      message := "'" ++ value.typeName ++ "' object is not iterable" }

/-- The mapping that a value stands for. A value that is not set stands for the empty one. -/
def ofJson (value : Json) : Except HostError Mapping :=
  if value.isTruthy then convert value else .ok []

/-- How a key is written where keys are texts. -/
def keyText : Json → String
  | .null => "null"
  | .bool value => if value then "true" else "false"
  | .text value => value
  | value => value.literal

/-- The mapping as an object. -/
def toJson (mapping : Mapping) : Json :=
  .object (mapping.map fun (name, content) => (keyText name, content))

/-- The entries whose keys are texts. -/
def textEntries (mapping : Mapping) : List (String × Json) :=
  mapping.filterMap fun (name, content) =>
    match name with
    | .text name => some (name, content)
    | _ => none

end Mapping

end TypedRecords
