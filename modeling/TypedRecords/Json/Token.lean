import TypedRecords.Json.Basic
import TypedRecords.Text.Hex

/-!
# Tokens of a JSON text

A JSON text is scanned in one pass over its characters. The scanner is between tokens, inside
a word (a number or one of the fixed words), or inside a text. Escapes denote code units of
sixteen bits, and two halves of a surrogate pair make one character.
-/

namespace TypedRecords.Json

/-- The tokens of a document. Texts are apart from the other atoms because only they can be keys. -/
inductive Token where
  | openArray
  | closeArray
  | openObject
  | closeObject
  | comma
  | colon
  | atom (value : Json)
  | text (value : String)

namespace Token

/-- Whether a character separates tokens and means nothing else. -/
def isBlank (character : Char) : Bool :=
  character == ' ' || character == '\t' || character == '\n' || character == '\r'

/-- The token that a punctuation character makes. -/
def punctuation? : Char → Option Token
  | '[' => some .openArray
  | ']' => some .closeArray
  | '\x7b' => some .openObject
  | '\x7d' => some .closeObject
  | ',' => some .comma
  | ':' => some .colon
  | _ => none

/-- The number that decimal digits denote, if all characters are digits and there is one. -/
def digitsValue? (characters : List Char) : Option Nat :=
  if characters.isEmpty || !characters.all Char.isDigit then none
  else some (characters.foldl (fun value digit => 10 * value + (digit.toNat - '0'.toNat)) 0)

/-- The value of an exponent, with or without a sign. -/
def exponentValue? : List Char → Option Int
  | '+' :: digits => (digitsValue? digits).map Int.ofNat
  | '-' :: digits => (digitsValue? digits).map fun value => -Int.ofNat value
  | digits => (digitsValue? digits).map Int.ofNat

/-- Whether digits are the whole part of a number: no zero stands before another digit. -/
def isWholePart (digits : List Char) : Bool :=
  match digits with
  | '0' :: _ :: _ => false
  | _ => true

/-- Whether a character introduces the exponent of a number. -/
def isExponentMark (character : Char) : Bool :=
  character == 'e' || character == 'E'

/-- The double with the given decimal parts. -/
def doubleValue? (negative : Bool) (whole fraction : List Char) (exponent : Int) :
    Option Json := do
  let digits ← digitsValue? (whole ++ fraction)
  some (.double (Double.ofDecimal negative digits (exponent - fraction.length)))

/-- The unsigned number that a word spells: an integer, or a double if it has a fraction or an
exponent. -/
def unsignedNumber? (negative : Bool) (word : List Char) : Option Json := do
  let whole := word.takeWhile Char.isDigit
  let wholeValue ← digitsValue? whole
  if !isWholePart whole then none
  match word.dropWhile Char.isDigit with
  | [] => some (.int (if negative then -Int.ofNat wholeValue else Int.ofNat wholeValue))
  | '.' :: rest =>
      let fraction := rest.takeWhile Char.isDigit
      if fraction.isEmpty then none
      match rest.dropWhile Char.isDigit with
      | [] => doubleValue? negative whole fraction 0
      | mark :: exponent =>
          if isExponentMark mark then
            doubleValue? negative whole fraction (← exponentValue? exponent)
          else none
  | mark :: exponent =>
      if isExponentMark mark then doubleValue? negative whole [] (← exponentValue? exponent)
      else none

/-- The value that a word spells. -/
def ofWord? (word : List Char) : Option Token :=
  match String.ofList word with
  | "null" => some (.atom .null)
  | "true" => some (.atom (.bool true))
  | "false" => some (.atom (.bool false))
  | "NaN" => some (.atom (.double .undefined))
  | "Infinity" => some (.atom (.double (.infinite false)))
  | "-Infinity" => some (.atom (.double (.infinite true)))
  | _ =>
      match word with
      | '-' :: rest => (unsignedNumber? true rest).map .atom
      | _ => (unsignedNumber? false word).map .atom

/-- Whether a code unit is the first half of a surrogate pair. -/
def isHighHalf (unit : Nat) : Bool :=
  0xd800 ≤ unit && unit < 0xdc00

/-- Whether a code unit is the second half of a surrogate pair. -/
def isLowHalf (unit : Nat) : Bool :=
  0xdc00 ≤ unit && unit < 0xe000

/-- The code point that a surrogate pair denotes. -/
def pairValue (high low : Nat) : Nat :=
  0x10000 + (high - 0xd800) * 0x400 + (low - 0xdc00)

/-- The characters that code units denote; a half without its partner is replaced. -/
def charactersOf : List Nat → List Char
  | [] => []
  | high :: low :: rest =>
      if isHighHalf high && isLowHalf low then
        Char.ofNat (pairValue high low) :: charactersOf rest
      else if isHighHalf high || isLowHalf high then '\ufffd' :: charactersOf (low :: rest)
      else Char.ofNat high :: charactersOf (low :: rest)
  | [unit] => [if isHighHalf unit || isLowHalf unit then '\ufffd' else Char.ofNat unit]

/-- The code point that a one-letter escape denotes. -/
def escapeValue? : Char → Option Nat
  | '"' => some '"'.toNat
  | '\\' => some '\\'.toNat
  | '/' => some '/'.toNat
  | 'b' => some 8
  | 'f' => some 12
  | 'n' => some 10
  | 'r' => some 13
  | 't' => some 9
  | _ => none

/-- Where the scanner stands. The characters of a word and the code units of a text are kept
last first. -/
inductive Mode where
  | between
  | inWord (word : List Char)
  | inText (units : List Nat)
  | afterBackslash (units : List Nat)
  | inEscape (units : List Nat) (value digits : Nat)

/-- The state of the scanner; tokens are kept last first. -/
structure Scanner where
  mode : Mode := .between
  tokens : List Token := []

namespace Scanner

/-- Add a token and stand between tokens. -/
def emit (scanner : Scanner) (token : Token) : Scanner :=
  { mode := .between, tokens := token :: scanner.tokens }

/-- Take a character that does not belong to the token before it. -/
def start? (scanner : Scanner) (character : Char) : Option Scanner :=
  if isBlank character then some { scanner with mode := .between }
  else if character = '"' then some { scanner with mode := .inText [] }
  else match punctuation? character with
    | some token => some (scanner.emit token)
    | none => some { scanner with mode := .inWord [character] }

/-- Whether a character cannot continue the word before it. -/
def endsWord (character : Char) : Bool :=
  isBlank character || character == '"' || (punctuation? character).isSome

/-- Finish the word whose characters are given last first. -/
def finishWord? (scanner : Scanner) (word : List Char) : Option Scanner :=
  (ofWord? word.reverse).map scanner.emit

/-- Take one character; no next state means that the text is malformed. -/
def step? (scanner : Scanner) (character : Char) : Option Scanner :=
  match scanner.mode with
  | .between => scanner.start? character
  | .inWord word =>
      if endsWord character then do
        let finished ← scanner.finishWord? word
        finished.start? character
      else some { scanner with mode := .inWord (character :: word) }
  | .inText units =>
      if character = '"' then
        some (scanner.emit (.text (String.ofList (charactersOf units.reverse))))
      else if character = '\\' then some { scanner with mode := .afterBackslash units }
      else if character.toNat < 0x20 then none
      else some { scanner with mode := .inText (character.toNat :: units) }
  | .afterBackslash units =>
      if character = 'u' then some { scanner with mode := .inEscape units 0 0 }
      else (escapeValue? character).map fun unit =>
        { scanner with mode := .inText (unit :: units) }
  | .inEscape units value digits =>
      (hexValue? character).map fun digit =>
        if digits = 3 then { scanner with mode := .inText ((16 * value + digit) :: units) }
        else { scanner with mode := .inEscape units (16 * value + digit) (digits + 1) }

/-- The tokens once the text has ended; a text must be closed. -/
def finish? (scanner : Scanner) : Option (List Token) :=
  match scanner.mode with
  | .between => some scanner.tokens.reverse
  | .inWord word => (scanner.finishWord? word).map fun finished => finished.tokens.reverse
  | _ => none

end Scanner

/-- The tokens of a JSON text, unless it is malformed. -/
def scan? (text : List Char) : Option (List Token) := do
  let scanner ← text.foldlM Scanner.step? {}
  scanner.finish?

end Token

end TypedRecords.Json
