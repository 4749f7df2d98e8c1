import TypedRecords.Failure
import TypedRecords.Time.DateText
import TypedRecords.Value.Basic

/-!
# The wire form of values

A moment travels as the object `{"__type": "Date", "iso": …}` and a pointer as the object
`{"__type": "Pointer", "className": …, "objectId": …}`. Any other object, and any array, is
decoded and encoded item by item; an object with another tag is invalid. What is not to be
decoded is taken over by `Json.untagged`.

Encoding fails only for a moment that lies outside the calendar in universal time.
-/

namespace TypedRecords

namespace Json

/-- The key of the tag of a typed object. -/
def tagKey : String :=
  "__type"

/-- Whether a wire value is an object with a type tag. -/
def isTagged : Json → Bool
  | .object entries => (entries.lookup tagKey).isSome
  | _ => false

/-- Decode a tagged date from its text. -/
def decodeDate (entries : List (String × Json)) : Except InvalidInput Value :=
  match entries.lookup "iso" with
  | some (.text written) =>
      match Moment.ofText? written with
      | some moment => .ok (.date moment)
      | none => .error (.invalidDate written)
  | _ => .error (.dateWithoutText (.object entries))

/-- Decode a tagged pointer. -/
def decodePointer (entries : List (String × Json)) : Except InvalidInput Value :=
  match entries.lookup "className", entries.lookup "objectId" with
  | some (.text className), some (.text objectId) => .ok (.pointer { className, objectId })
  | _, _ => .error .incompletePointer

/-- Decode an object with the given tag. -/
def decodeTagged (tag : Json) (entries : List (String × Json)) : Except InvalidInput Value :=
  match tag with
  | .text "Date" => decodeDate entries
  | .text "Pointer" => decodePointer entries
  | _ => .error (.unknownTag tag)

mutual

/-- The value that a wire value denotes. -/
def decode : Json → Except InvalidInput Value
  | .null => .ok .null
  | .bool value => .ok (.bool value)
  | .int value => .ok (.int value)
  | .double value => .ok (.double value)
  | .text value => .ok (.text value)
  | .foreign kind => .ok (.foreign kind)
  | .array items => do
      let items ← decodeItems items
      return .array items
  | .object entries =>
      match entries.lookup tagKey with
      | some tag => decodeTagged tag entries
      | none => do
          let entries ← decodeEntries entries
          return .object entries

/-- Decode the items of an array; the first that is invalid decides. -/
def decodeItems : List Json → Except InvalidInput (List Value)
  | [] => return []
  | item :: rest => do
      let item ← decode item
      let rest ← decodeItems rest
      return item :: rest

/-- The entries with their contents decoded. Used for the fields of a record as well, so a field
of that name is not taken for a tag. -/
def decodeEntries : List (String × Json) → Except InvalidInput (List (String × Value))
  | [] => return []
  | (key, content) :: rest => do
      let content ← decode content
      let rest ← decodeEntries rest
      return (key, content) :: rest

end

mutual

/-- The value with the contents of a wire value as they stand: tags are entries like any
other. -/
def untagged : Json → Value
  | .null => .null
  | .bool value => .bool value
  | .int value => .int value
  | .double value => .double value
  | .text value => .text value
  | .foreign kind => .foreign kind
  | .array items => .array (untaggedItems items)
  | .object entries => .object (untaggedEntries entries)

/-- The items of an array as they stand. -/
def untaggedItems : List Json → List Value
  | [] => []
  | item :: rest => untagged item :: untaggedItems rest

/-- The entries of an object as they stand. -/
def untaggedEntries : List (String × Json) → List (String × Value)
  | [] => []
  | (key, content) :: rest => (key, untagged content) :: untaggedEntries rest

end

end Json

namespace Value

/-- The wire form of a moment. -/
def encodeDate (moment : Moment) : Except HostError Json :=
  match moment.timestamp? with
  | some written => .ok (.object [(Json.tagKey, .text "Date"), ("iso", .text written)])
  | none => .error .dateOutOfRange

mutual

/-- The wire form of a value. -/
def encode : Value → Except HostError Json
  | .null => .ok .null
  | .bool value => .ok (.bool value)
  | .int value => .ok (.int value)
  | .double value => .ok (.double value)
  | .text value => .ok (.text value)
  | .date moment => encodeDate moment
  | .pointer target =>
      .ok (.object [(Json.tagKey, .text "Pointer"), ("className", .text target.className),
        ("objectId", .text target.objectId)])
  | .array items => do
      let items ← encodeItems items
      return .array items
  | .object entries => do
      let entries ← encodeEntries entries
      return .object entries
  | .foreign kind => .ok (.foreign kind)

/-- The wire forms of the items of an array. -/
def encodeItems : List Value → Except HostError (List Json)
  | [] => return []
  | item :: rest => do
      let item ← encode item
      let rest ← encodeItems rest
      return item :: rest

/-- The wire forms of the entries of an object, under their keys. -/
def encodeEntries : List (String × Value) → Except HostError (List (String × Json))
  | [] => return []
  | (key, content) :: rest => do
      let content ← encode content
      let rest ← encodeEntries rest
      return (key, content) :: rest

end

end Value

end TypedRecords
