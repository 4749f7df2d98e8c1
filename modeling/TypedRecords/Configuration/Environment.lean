import TypedRecords.Entries
import TypedRecords.Json.Reader
import TypedRecords.Text.Lowercase

/-!
# Settings from the environment

A variable whose name begins with the marker sets one setting. The rest of the name is split at
double underscores into the section and the path of the setting within it. Names are compared
without regard to letter case; a name that is not yet known is written in lower case. The value
is read as JSON, or taken as a text if it is none.
-/

namespace TypedRecords

/-- The sections of the settings. -/
inductive Section where
  | service
  | store
deriving DecidableEq

/-- The name of a section in a configuration and in a variable of the environment. -/
def Section.name : Section → String
  | .service => "cloudcrud"
  | .store => "store"

/-- The section with the given name, if there is one. -/
def Section.ofName? (name : String) : Option Section :=
  [Section.service, Section.store].find? (·.name == name)

namespace Environment

/-- How the names of the variables begin that set a setting. -/
def marker : List Char :=
  "CLOUDCRUD__".toList

/-- The rest of a text after a beginning, if it begins so. -/
def afterStart? : List Char → List Char → Option (List Char)
  | [], rest => some rest
  | expected :: start, character :: rest =>
      if expected = character then afterStart? start rest else none
  | _ :: _, [] => none

/-- Put a character in front of the first of some parts. -/
def consFirst (character : Char) : List (List Char) → List (List Char)
  | [] => [[character]]
  | first :: rest => (character :: first) :: rest

/-- The parts of a text between double underscores, taken from the left. -/
def splitName : List Char → List (List Char)
  | [] => [[]]
  | '_' :: '_' :: rest => [] :: splitName rest
  | character :: rest => consFirst character (splitName rest)

/-- The section and the path that the name of a variable denotes, if it denotes a setting. -/
def settingOf? (variableName : String) : Option (Section × List String) := do
  let rest ← afterStart? marker variableName.toList
  match (splitName rest).map String.ofList with
  | sectionName :: key :: keys => do
      let part ← Section.ofName? (lowercase sectionName)
      return (part, key :: keys)
  | _ => none

/-- The value that the text of a variable denotes. -/
def valueOf (written : String) : Json :=
  (Json.read? written).getD (.text written)

/-- The first key among some entries that is the given one but for letter case, or else the
given one in lower case. -/
def resolve (entries : List (String × Json)) (key : String) : String :=
  ((Entries.keys entries).find? (lowercase · == lowercase key)).getD (lowercase key)

/-- The entries of a value that is an object; there are none in any other value. -/
def nested (entries : List (String × Json)) (key : String) : List (String × Json) :=
  match entries.lookup key with
  | some (.object inner) => inner
  | _ => []

/-- Set the value at a path; what lies on the path and is no object becomes one. -/
def setAt (entries : List (String × Json)) : List String → Json → List (String × Json)
  | [], _ => entries
  | [key], value => Entries.set entries (resolve entries key) value
  | key :: rest, value =>
      let resolved := resolve entries key
      Entries.set entries resolved (.object (setAt (nested entries resolved) rest value))

end Environment

end TypedRecords
