import Flowchart.Text.Printable

/-!
Quoted text: a text between quotes, on one line, with everything invisible escaped.
-/

namespace Flowchart.Text

/-- A number in small hexadecimal digits, padded with zeros to a width. -/
def hexadecimal (width n : Nat) : List Char :=
  let digits := Nat.toDigits 16 n
  List.replicate (width - digits.length) '0' ++ digits

/-- The quote to put around a text: the single one, unless only the text itself holds single
quotes. -/
def quoteFor (text : List Char) : Char :=
  if text.contains '\'' && !text.contains '"' then '"' else '\''

/-- A character by its number. -/
def escapeCode (c : Char) : List Char :=
  if c.toNat < 0x100 then '\\' :: 'x' :: hexadecimal 2 c.toNat
  else if c.toNat < 0x10000 then '\\' :: 'u' :: hexadecimal 4 c.toNat
  else '\\' :: 'U' :: hexadecimal 8 c.toNat

/-- One character between quotes. -/
def escapeChar (quote c : Char) : List Char :=
  if c = '\\' ∨ c = quote then ['\\', c]
  else if c = '\n' then ['\\', 'n']
  else if c = '\r' then ['\\', 'r']
  else if c = '\t' then ['\\', 't']
  else if isPrintable c then [c]
  else escapeCode c

/-- A text in quotes. -/
def quoted (text : String) : String :=
  let characters := text.toList
  let quote := quoteFor characters
  String.ofList (quote :: (characters.flatMap (escapeChar quote) ++ [quote]))

/-- A text whose backslashes begin escapes already, in quotes. -/
def quotedEscaped (text : String) : String :=
  let characters := text.toList
  let quote := quoteFor characters
  String.ofList (quote :: (characters.flatMap (fun c =>
    if c = '\\' then [c] else escapeChar quote c) ++ [quote]))

/-- A text with every character outside ASCII written by its number. -/
def asciiOnly (text : String) : String :=
  String.ofList (text.toList.flatMap fun c => if c.toNat < 0x80 then [c] else escapeCode c)

end Flowchart.Text
