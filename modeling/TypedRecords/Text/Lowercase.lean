import TypedRecords.Text.Casing

/-!
# Lower-casing

The lower-case form of a text, over the whole character repertoire. Two characters do not
simply map to one other: the dotted capital I becomes two characters, and a capital sigma is
written in its final form when it ends a word, that is when a cased character precedes it and
none follows.
-/

namespace TypedRecords

/-- Whether a character is a cased letter that decides how a sigma beside it is written. -/
def isCased (character : Char) : Bool :=
  casedRanges.contains character.toNat

/-- Whether a character is passed over when the neighbours of a letter are looked for. -/
def isCaseIgnorable (character : Char) : Bool :=
  caseIgnorableRanges.contains character.toNat

/-- A run of characters with a one-character lower-case form: the first and last code point, the
stride, and the offset of the lower-case form. -/
abbrev LoweringRun := Nat × Nat × Nat × Int

/-- Whether a code point belongs to a run. -/
def LoweringRun.has (run : LoweringRun) (code : Nat) : Bool :=
  run.1 ≤ code && code ≤ run.2.1 && (code - run.1) % run.2.2.1 == 0

/-- The lower-case form that the first run with the character gives it; a character that is in none
of the runs is its own. -/
def lowerBy (runs : Array LoweringRun) (character : Char) : Char :=
  match runs.find? (LoweringRun.has · character.toNat) with
  | some (_, _, _, offset) => Char.ofNat (character.toNat + offset).toNat
  | none => character

/-- The one-character lower-case form of a character; most characters are their own. -/
def simpleLowercase (character : Char) : Char :=
  lowerBy loweringRuns character

/-- Whether the characters before a cased letter end a word. -/
def endsWord (following : List Char) : Bool :=
  match following.dropWhile isCaseIgnorable with
  | next :: _ => !isCased next
  | [] => true

/-- The lower-case form of a character, given whether a cased letter precedes it and the
characters that follow it. -/
def lowercaseCharacter (casedBefore : Bool) (character : Char) (following : List Char) :
    List Char :=
  if character = 'Σ' then
    [if casedBefore && endsWord following then 'ς' else 'σ']
  else if character = 'İ' then ['i', '\u0307']
  else [simpleLowercase character]

/-- The lower-case form of the rest of a text. -/
def lowercaseFrom (casedBefore : Bool) : List Char → List Char
  | [] => []
  | character :: following =>
      let casedAfter := if isCaseIgnorable character then casedBefore else isCased character
      lowercaseCharacter casedBefore character following ++ lowercaseFrom casedAfter following

/-- The lower-case form of a text. -/
def lowercase (text : String) : String :=
  String.ofList (lowercaseFrom false text.toList)

end TypedRecords
