import UnitCalc.Text.Ranges

/-!
# Blank characters

The characters that separate lexemes: the ASCII controls from tab to carriage return and
from U+001C to U+001F, the next-line control and every space and line separator of Unicode.
The zero-width space U+200B and the byte order mark U+FEFF are not blank.
-/

namespace UnitCalc.Text

/-- The ranges of the blank characters. -/
def blankRanges : Ranges := [
  (0x9, 0xD), (0x1C, 0x20), (0x85, 0x85), (0xA0, 0xA0), (0x1680, 0x1680), (0x2000, 0x200A),
  (0x2028, 0x2029), (0x202F, 0x202F), (0x205F, 0x205F), (0x3000, 0x3000)]

/-- Whether a character is blank. -/
def isBlank (c : Char) : Bool :=
  blankRanges.contains c

/-- The text without the blanks at its beginning. -/
def trimLeft (cs : List Char) : List Char :=
  cs.dropWhile isBlank

/-- The text without the blanks at its end. -/
def trimRight (cs : List Char) : List Char :=
  (trimLeft cs.reverse).reverse

/-- The text without the blanks at both ends. -/
def trim (cs : List Char) : List Char :=
  trimRight (trimLeft cs)

end UnitCalc.Text
