/-!
# Names of classes and fields

A name is an ASCII letter followed by ASCII letters, digits and underscores. The check that
guards the store also lets one line feed at the end pass; `IsProperName` is the stricter rule
without it.
-/

namespace TypedRecords

/-- Whether the character can begin a name. -/
def isNameStart (character : Char) : Bool :=
  ('a' ≤ character && character ≤ 'z') || ('A' ≤ character && character ≤ 'Z')

/-- Whether the character can stand in a name after its first. -/
def isNamePart (character : Char) : Bool :=
  isNameStart character || ('0' ≤ character && character ≤ '9') || character == '_'

/-- Whether the characters can follow the first one of a name; a last line feed is let
pass. -/
def isNameRest : List Char → Bool
  | [] => true
  | ['\n'] => true
  | character :: rest => isNamePart character && isNameRest rest

/-- Whether a text is accepted as the name of a class or of a field. -/
def isName (text : String) : Bool :=
  match text.toList with
  | first :: rest => isNameStart first && isNameRest rest
  | [] => false

/-- The text consists entirely of a letter followed by letters, digits and underscores. -/
def IsProperName (text : String) : Prop :=
  ∃ first rest, text.toList = first :: rest ∧ isNameStart first = true ∧
    ∀ character ∈ rest, isNamePart character = true

end TypedRecords
