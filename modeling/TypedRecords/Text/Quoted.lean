import TypedRecords.Text.Hex
import TypedRecords.Text.Printable

/-!
# Quoted texts

A text is shown in messages between quotes: single quotes, unless it holds a single quote and
no double quote. The backslash and the enclosing quote are escaped by a backslash, tab, line
feed and carriage return by a letter, and every other unprintable character by its code
point in two, four or eight hexadecimal digits.
-/

namespace TypedRecords

/-- The quote that encloses a text. -/
def enclosingQuote (characters : List Char) : Char :=
  if characters.contains '\'' && !characters.contains '"' then '"' else '\''

/-- The escape of an unprintable character. -/
def codePointEscape (code : Nat) : List Char :=
  if code ≤ 0xff then '\\' :: 'x' :: paddedHex 2 code
  else if code ≤ 0xffff then '\\' :: 'u' :: paddedHex 4 code
  else '\\' :: 'U' :: paddedHex 8 code

/-- One character as it is written between the given quotes. -/
def quotedCharacter (quote character : Char) : List Char :=
  if character = quote ∨ character = '\\' then ['\\', character]
  else if character = '\n' then ['\\', 'n']
  else if character = '\r' then ['\\', 'r']
  else if character = '\t' then ['\\', 't']
  else if isPrintable character then [character]
  else codePointEscape character.toNat

/-- The text between quotes. -/
def quoted (text : String) : String :=
  let quote := enclosingQuote text.toList
  String.ofList (quote :: text.toList.flatMap (quotedCharacter quote) ++ [quote])

end TypedRecords
