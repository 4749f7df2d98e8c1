import TypedRecords.Entries
import TypedRecords.Json.Token

/-!
# Reading JSON

A value is read from its tokens by a machine with a stack of the arrays and objects that are
still open. Where an object names a key twice, the key keeps its first place and its last
content.
-/

namespace TypedRecords.Json

/-- An array or object that is still open. Items are kept last first; an object also holds the
key whose content is being read. -/
inductive Frame where
  | array (items : List Json)
  | object (entries : List (String × Json)) (key : String)

/-- What the reader expects next. -/
inductive Expectation where
  | value
  /-- A value or the end of an empty array may follow. -/
  | valueOrEnd
  | key
  /-- A key or the end of an empty object may follow. -/
  | keyOrEnd
  | colon
  /-- A value is complete; what may follow depends on the open frames. -/
  | complete (value : Json)

/-- The state of the reader: the open frames, innermost first. -/
structure Reader where
  expectation : Expectation := .value
  frames : List Frame := []

namespace Reader

/-- Begin a value with its first token. -/
def begin? (reader : Reader) : Token → Option Reader
  | .atom value => some { reader with expectation := .complete value }
  | .text value => some { reader with expectation := .complete (.text value) }
  | .openArray =>
      some { expectation := .valueOrEnd, frames := .array [] :: reader.frames }
  | .openObject =>
      some { expectation := .keyOrEnd, frames := .object [] "" :: reader.frames }
  | _ => none

/-- Continue after a complete value. -/
def continue? (value : Json) (token : Token) : List Frame → Option Reader
  | .array items :: frames =>
      match token with
      | .comma => some { expectation := .value, frames := .array (value :: items) :: frames }
      | .closeArray =>
          some { expectation := .complete (.array (value :: items).reverse), frames }
      | _ => none
  | .object entries key :: frames =>
      let entries := Entries.set entries key value
      match token with
      | .comma => some { expectation := .key, frames := .object entries key :: frames }
      | .closeObject => some { expectation := .complete (.object entries), frames }
      | _ => none
  | [] => none

/-- Take the key of an entry of the innermost object; only a text can be one. -/
def takeKey? (reader : Reader) : Token → Option Reader
  | .text key =>
      match reader.frames with
      | .object entries _ :: frames =>
          some { expectation := .colon, frames := .object entries key :: frames }
      | _ => none
  | _ => none

/-- Take one token; no next state means that the text is malformed. -/
def step? (reader : Reader) (token : Token) : Option Reader :=
  match reader.expectation with
  | .value => reader.begin? token
  | .valueOrEnd =>
      match token with
      | .closeArray => some { expectation := .complete (.array []), frames := reader.frames.tail }
      | _ => reader.begin? token
  | .key => reader.takeKey? token
  | .keyOrEnd =>
      match token with
      | .closeObject =>
          some { expectation := .complete (.object []), frames := reader.frames.tail }
      | _ => reader.takeKey? token
  | .colon =>
      match token with
      | .colon => some { reader with expectation := .value }
      | _ => none
  | .complete value => continue? value token reader.frames

/-- The value that was read, once the tokens have ended. -/
def finish? (reader : Reader) : Option Json :=
  match reader.expectation, reader.frames with
  | .complete value, [] => some value
  | _, _ => none

end Reader

/-- The value that a JSON text denotes, unless it is malformed. -/
def read? (text : String) : Option Json := do
  let tokens ← Token.scan? text.toList
  let reader ← tokens.foldlM Reader.step? {}
  reader.finish?

end TypedRecords.Json
