import TypedRecords.Text.Ranges

/-!
# White space

The characters with the white-space property, and texts without them at either end.
-/

namespace TypedRecords

/-- The ranges of the code points of blank characters. -/
def blankRanges : CodeRanges :=
  #[(0x9, 0xd), (0x20, 0x20), (0x85, 0x85), (0xa0, 0xa0), (0x1680, 0x1680), (0x2000, 0x200a),
    (0x2028, 0x2029), (0x202f, 0x202f), (0x205f, 0x205f), (0x3000, 0x3000)]

/-- Whether a character is blank anywhere in the character repertoire. -/
def isBlankCharacter (character : Char) : Bool :=
  blankRanges.contains character.toNat

/-- The characters without white space at either end. -/
def trimBlank (characters : List Char) : List Char :=
  ((characters.dropWhile isBlankCharacter).reverse.dropWhile isBlankCharacter).reverse

end TypedRecords
