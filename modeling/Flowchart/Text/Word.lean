import Flowchart.Text.Alphanumeric
import Flowchart.Text.Mark
import Flowchart.Text.CodeRange

/-!
Word characters. There are two notions: name characters, which are letters, numbers and the
underscore, and word characters, which leave out fractions and the like but take in combining
marks, connectors and the two joiners, so that a word of any script stays in one piece.
-/

namespace Flowchart.Text

/-- Letters, digits and the underscore of ASCII. -/
def isAsciiWord (c : Char) : Bool :=
  c.isAlphanum || c == '_'

/-- A letter or number of any script, or an underscore. -/
def isNameChar (c : Char) : Bool :=
  if c.toNat < 0x80 then isAsciiWord c else inRanges alphanumericRanges c

/-- A character of a word in the sense of Unicode: alphabetic, mark, decimal digit, connector or
joiner. -/
def isWordChar (c : Char) : Bool :=
  if c.toNat < 0x80 then isAsciiWord c
  else (inRanges alphanumericRanges c && !inRanges otherNumberRanges c) ||
    inRanges markRanges c || inRanges connectorRanges c || inRanges letterSymbolRanges c ||
    c.toNat == 0x200C || c.toNat == 0x200D

end Flowchart.Text
