import Flowchart.Json.Escaped
import Flowchart.Limits
import Flowchart.Text.Search

/-!
Reading documents. There are two dialects: the strict one, and one in which the three doubles that
are not finite have spellings of their own.

A text is read from left to right, and the first thing in it that is malformed or beyond the limits
ends the reading. Strings come out in escaped form, since they may hold half of a surrogate pair.

Main definitions: `Json.readEscaped`, `Json.read`.
-/

namespace Flowchart.Json

open Flowchart.Text

/-- How documents are read. -/
structure Dialect where
  limits : Limits := .unlimited
  /-- Whether doubles that are not finite have spellings. -/
  nonFinite : Bool := true
deriving Repr, Inhabited

/-- Documents as they are exchanged between programs, of any size. -/
def Dialect.strict : Dialect where
  nonFinite := false

/-- Why a text cannot be read. -/
inductive ReadError where
  | malformed
  | excess (cause : Excess)
deriving Repr, Inhabited, DecidableEq

/-- Reads a value from the front of a text, or says why it cannot. -/
abbrev Reader (α : Type) := List Char → Except ReadError (α × List Char)

/-- The blanks allowed between the tokens of a document. -/
def isSeparator (c : Char) : Bool :=
  c == ' ' || c == '\t' || c == '\n' || c == '\r'

/-- A text without its leading separators. -/
def skipSeparators (text : List Char) : List Char :=
  text.dropWhile isSeparator

/-- The value of a hexadecimal digit. -/
def hexDigit? (c : Char) : Option Nat :=
  if '0' ≤ c ∧ c ≤ '9' then some (c.toNat - '0'.toNat)
  else if 'a' ≤ c ∧ c ≤ 'f' then some (c.toNat - 'a'.toNat + 10)
  else if 'A' ≤ c ∧ c ≤ 'F' then some (c.toNat - 'A'.toNat + 10)
  else none

/-- Four hexadecimal digits. -/
def readCodeUnit : Recognizer Nat
  | a :: b :: c :: d :: rest => do
    let a ← hexDigit? a
    let b ← hexDigit? b
    let c ← hexDigit? c
    let d ← hexDigit? d
    some (((a * 16 + b) * 16 + c) * 16 + d, rest)
  | _ => none

/-- The character or the half of a surrogate pair that an escape which starts with `u` stands for,
in escaped form. Two halves that form a pair are one character. -/
def readCodePoint : Recognizer (List Char) := fun text => do
  let (first, rest) ← readCodeUnit text
  if 0xD800 ≤ first ∧ first < 0xDC00 then
    match rest with
    | '\\' :: 'u' :: more =>
      match readCodeUnit more with
      | some (second, rest') =>
        if 0xDC00 ≤ second ∧ second < 0xE000 then
          some (doubled (Char.ofNat (0x10000 + (first - 0xD800) * 0x400 + (second - 0xDC00))),
            rest')
        else some (escapedHalf first, rest)
      | none => some (escapedHalf first, rest)
    | _ => some (escapedHalf first, rest)
  else if 0xDC00 ≤ first ∧ first < 0xE000 then some (escapedHalf first, rest)
  else some (doubled (Char.ofNat first), rest)

/-- One character of a string in escaped form: itself, or what an escape stands for. -/
def readCharacter : Recognizer (List Char)
  | '\\' :: '"' :: rest => some (['"'], rest)
  | '\\' :: '\\' :: rest => some (doubled '\\', rest)
  | '\\' :: '/' :: rest => some (['/'], rest)
  | '\\' :: 'b' :: rest => some ([Char.ofNat 0x08], rest)
  | '\\' :: 'f' :: rest => some ([Char.ofNat 0x0C], rest)
  | '\\' :: 'n' :: rest => some (['\n'], rest)
  | '\\' :: 'r' :: rest => some (['\r'], rest)
  | '\\' :: 't' :: rest => some (['\t'], rest)
  | '\\' :: 'u' :: rest => readCodePoint rest
  | c :: rest => if c = '"' ∨ c = '\\' ∨ c.toNat < 0x20 then none else some ([c], rest)
  | [] => none

/-- A string in escaped form, after its opening quote. -/
def readString : Reader String := fun text =>
  match many readCharacter text with
  | (characters, '"' :: rest) => .ok (String.ofList characters.flatten, rest)
  | _ => .error .malformed

/-- The value of decimal digits. -/
def digitsValue (digits : List Char) : Nat :=
  Decimal.ofDigits (digits.map fun c => c.toNat - '0'.toNat)

/-- The digits before the point: a zero alone, or digits that do not start with a zero. -/
def readWhole : Recognizer (List Char)
  | '0' :: rest => some (['0'], rest)
  | text => run1 Char.isDigit text

/-- A point with digits after it, if there is one. -/
def readFraction (text : List Char) : Option (List Char) × List Char :=
  match text with
  | '.' :: rest =>
    match run1 Char.isDigit rest with
    | some (digits, left) => (some digits, left)
    | none => (none, text)
  | _ => (none, text)

/-- An exponent, if there is one. -/
def readExponent (text : List Char) : Option Int × List Char :=
  match text with
  | mark :: rest =>
    if mark = 'e' ∨ mark = 'E' then
      let (negative, unsigned) := match rest with
        | '-' :: more => (true, more)
        | '+' :: more => (false, more)
        | _ => (false, rest)
      match run1 Char.isDigit unsigned with
      | some (digits, left) =>
        let size : Int := digitsValue digits
        (some (if negative then -size else size), left)
      | none => (none, text)
    else (none, text)
  | [] => (none, text)

/-- A number without its sign. With a point or an exponent it is a double, else a whole number. -/
def readUnsigned (limits : Limits) (negative : Bool) : Reader Json := fun text =>
  match readWhole text with
  | none => .error .malformed
  | some (whole, rest) =>
    let (fraction, rest) := readFraction rest
    let (exponent, rest) := readExponent rest
    match fraction, exponent with
    | none, none =>
      let size : Int := digitsValue whole
      match limits.digitExcess? whole.length true with
      | some cause => .error (.excess cause)
      | none => .ok (int (if negative then -size else size), rest)
    | _, _ =>
      let decimals := fraction.getD []
      let size := Decimal.toFloat (digitsValue (whole ++ decimals))
        (exponent.getD 0 - decimals.length)
      .ok (float (if negative then -size else size), rest)

/-- The words for values. -/
def words (dialect : Dialect) : List (String × Json) :=
  [("null", null), ("true", bool true), ("false", bool false)] ++
    if dialect.nonFinite then [("NaN", float (0.0 / 0.0)), ("Infinity", float (1.0 / 0.0))] else []

/-- A number, or a word for a value. -/
def readScalar (dialect : Dialect) : Reader Json := fun text =>
  match text with
  | '-' :: rest =>
    match if dialect.nonFinite then afterLiteral "Infinity".toList rest else none with
    | some left => .ok (float (-1.0 / 0.0), left)
    | none => readUnsigned dialect.limits true rest
  | c :: _ =>
    if c.isDigit then readUnsigned dialect.limits false text
    else
      match (words dialect).findSome? fun word =>
          (afterLiteral word.1.toList text).map fun left => (word.2, left) with
      | some result => .ok result
      | none => .error .malformed
  | [] => .error .malformed

mutual

/-- A value that starts at the first character, with arrays and objects allowed inside one another
as often as there is room. -/
def readValue (dialect : Dialect) (room : Nat) (text : List Char) :
    Except ReadError (Json × List Char) :=
  match text with
  | '"' :: rest => (readString rest).map fun result => (str result.1, result.2)
  | '[' :: rest =>
    match room with
    | 0 => .error (.excess (.nesting .readArray))
    | room + 1 =>
      match skipSeparators rest with
      | ']' :: left => .ok (arr [], left)
      | first =>
        (readItems dialect room first.length first).map fun result => (arr result.1, result.2)
  | '\x7b' :: rest =>
    match room with
    | 0 => .error (.excess (.nesting .readObject))
    | room + 1 =>
      match skipSeparators rest with
      | '\x7d' :: left => .ok (obj [], left)
      | first =>
        (readFields dialect room first.length first).map fun result =>
          (obj (Keyed.ofPairs result.1), result.2)
  | _ => readScalar dialect text

/-- The items of an array up to its bracket. The count bounds the items. -/
def readItems (dialect : Dialect) (room count : Nat) (text : List Char) :
    Except ReadError (List Json × List Char) :=
  match count with
  | 0 => .error .malformed
  | count + 1 =>
    match readValue dialect room text with
    | .error cause => .error cause
    | .ok (item, rest) =>
      match skipSeparators rest with
      | ']' :: left => .ok ([item], left)
      | ',' :: more =>
        (readItems dialect room count (skipSeparators more)).map fun result =>
          (item :: result.1, result.2)
      | _ => .error .malformed

/-- The fields of an object up to its brace. The count bounds the fields. -/
def readFields (dialect : Dialect) (room count : Nat) (text : List Char) :
    Except ReadError (List (String × Json) × List Char) :=
  match count, text with
  | count + 1, '"' :: rest =>
    match readString rest with
    | .error cause => .error cause
    | .ok (key, rest) =>
      match skipSeparators rest with
      | ':' :: more =>
        match readValue dialect room (skipSeparators more) with
        | .error cause => .error cause
        | .ok (value, rest) =>
          match skipSeparators rest with
          | '\x7d' :: left => .ok ([(key, value)], left)
          | ',' :: more =>
            (readFields dialect room count (skipSeparators more)).map fun result =>
              ((key, value) :: result.1, result.2)
          | _ => .error .malformed
      | _ => .error .malformed
  | _, _ => .error .malformed

end

/-- A whole text as one document, its strings in escaped form. Without a limit there is room for as
many brackets as the text has characters. -/
def readEscaped (dialect : Dialect) (text : String) : Except ReadError Json :=
  let characters := skipSeparators text.toList
  match readValue dialect (dialect.limits.reading.getD characters.length) characters with
  | .error cause => .error cause
  | .ok (value, rest) =>
    if (skipSeparators rest).isEmpty then .ok value else .error .malformed

/-- A whole text as one document. It is none if a string holds half of a surrogate pair. -/
def read (dialect : Dialect) (text : String) : Except ReadError (Option Json) :=
  (readEscaped dialect text).map plain?

end Flowchart.Json
