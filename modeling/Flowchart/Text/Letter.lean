/-!
Comparing letters without regard to case. Keywords are written in ASCII, so a comparison only
has to know which characters stand for an ASCII letter: its two cases, and the few letters beyond
ASCII whose other case is an ASCII letter.
-/

namespace Flowchart.Text

/-- The small ASCII letter a character stands for: its own, or `s` for the long s U+017F and `k`
for the Kelvin sign U+212A. Any other character stands for itself. -/
def foldLetter (c : Char) : Char :=
  if c.toNat < 0x80 then c.toLower
  else if c.toNat == 0x17F then 's'
  else if c.toNat == 0x212A then 'k'
  else c

/-- `foldLetter`, where the dotted capital I and the dotless small i stand for `i` as well. -/
def foldLetterDotted (c : Char) : Char :=
  if c.toNat == 0x130 || c.toNat == 0x131 then 'i' else foldLetter c

/-- The small form of a character, as far as ASCII letters appear in it: the dotted capital I is
written as `i` with a combining dot. -/
def lowerLetter (c : Char) : List Char :=
  if c.toNat < 0x80 then [c.toLower]
  else if c.toNat == 0x130 then ['i', '\u0307']
  else if c.toNat == 0x212A then ['k']
  else [c]

/-- A text in which ASCII keywords can be looked up in their small spelling. -/
def lowerForKeywords (text : String) : String :=
  String.ofList (text.toList.flatMap lowerLetter)

end Flowchart.Text
