import Flowchart.Decimal.Rounded
import Flowchart.Json.Printer
import Flowchart.Log.Directive

/-!
Filling message templates. The letter of a directive says how its argument is written: `s` as a
text, `r` as it is quoted in running text and `a` the same in ASCII; `d`, `i` and `u` as a whole
number, `o`, `x` and `X` in base eight and sixteen; `f` with places after the point, `e` with an
exponent and `g` in the shorter of these forms, and the same for their capital letters; `c` as a
character.
-/

namespace Flowchart.Log

/-- Why a template cannot be filled. -/
inductive TemplateError where
  | missingArgument
  | unusedArgument
  | unfinished
  | unfinishedName
  | noFields
  | unknownField (name : String)
  | extentNotWhole
  | widthTooLarge
  | precisionTooLarge
  | unknownLetter (letter : Char) (position : Nat)
  | notNumber (letter : Char) (typeName : String)
  | notWhole (letter : Char) (typeName : String)
  | notReal (typeName : String)
  | notCharacter
  | noSuchCharacter
  | tooLarge
  | infinite
  | notANumber
  | excess (cause : Excess)
deriving Repr, Inhabited, DecidableEq

namespace TemplateError

/-- A letter as it is shown to the user: only visible ASCII is. -/
def shownLetter (letter : Char) : Char :=
  if 31 ≤ letter.toNat ∧ letter.toNat < 127 then letter else '?'

/-- The wording of a template error. -/
def message : TemplateError → String
  | missingArgument => "not enough arguments for format string"
  | unusedArgument => "not all arguments converted during string formatting"
  | unfinished => "incomplete format"
  | unfinishedName => "incomplete format key"
  | noFields => "format requires a mapping"
  | unknownField name => Text.quoted name
  | extentNotWhole => "* wants int"
  | widthTooLarge => "width too big"
  | precisionTooLarge => "precision too big"
  | unknownLetter letter position =>
    "unsupported format character '" ++ String.ofList [shownLetter letter] ++ "' (0x" ++
      String.ofList (Nat.toDigits 16 letter.toNat) ++ ") at index " ++ Decimal.natText position
  | notNumber letter typeName =>
    "%" ++ String.ofList [letter] ++ " format: a real number is required, not " ++ typeName
  | notWhole letter typeName =>
    "%" ++ String.ofList [letter] ++ " format: an integer is required, not " ++ typeName
  | notReal typeName => "must be real number, not " ++ typeName
  | notCharacter => "%c requires int or char"
  | noSuchCharacter => "%c arg not in range(0x110000)"
  | tooLarge => "int too large to convert to float"
  | infinite => "cannot convert float infinity to integer"
  | notANumber => "cannot convert float NaN to integer"
  | excess cause => cause.message

end TemplateError

/-! ### Arguments -/

/-- The greatest width that may be asked for. -/
def greatestWidth : Nat := Nat.pow 2 63 - 1

/-- The greatest precision that may be asked for. -/
def greatestPrecision : Nat := Nat.pow 2 31 - 1

/-- The arguments that are left, and the fields that directives may name. -/
structure Arguments where
  left : List Json
  fields : Option (Keyed Json) := none

namespace Arguments

/-- The arguments of a message. A single object with fields is one argument and gives its fields
too. -/
def ofList : List Json → Arguments
  | [.obj (field :: fields)] => ⟨[.obj (field :: fields)], some (field :: fields)⟩
  | items => ⟨items, none⟩

/-- The next argument, and the arguments after it. -/
def next (arguments : Arguments) : Except TemplateError (Json × Arguments) :=
  match arguments.left with
  | [] => .error .missingArgument
  | argument :: left => .ok (argument, { arguments with left := left })

/-- The arguments of a directive. A field that it names becomes the only argument that is left. -/
def enter (arguments : Arguments) : Origin → Except TemplateError Arguments
  | .next => .ok arguments
  | .unclosed => .error (if arguments.fields.isSome then .unfinishedName else .noFields)
  | .field name =>
    match arguments.fields with
    | none => .error .noFields
    | some fields =>
      match Keyed.find? name fields with
      | some value => .ok { arguments with left := [value] }
      | none => .error (.unknownField name)

/-- The size that a directive asks for; it is below zero only if an argument says so. -/
def extent (arguments : Arguments) : Extent → Except TemplateError (Int × Arguments)
  | .fixed size => .ok (size, arguments)
  | .next => do
    let (argument, arguments) ← arguments.next
    match argument with
    | .int value => .ok (value, arguments)
    | .bool value => .ok (if value then 1 else 0, arguments)
    | _ => .error .extentNotWhole

/-- The width of a directive, zero for none. -/
def width (arguments : Arguments) (given : Option Extent) :
    Except TemplateError (Int × Arguments) := do
  let (size, arguments) ← arguments.extent (given.getD (.fixed 0))
  if greatestWidth < size.natAbs then .error .widthTooLarge else .ok (size, arguments)

/-- The precision of a directive. One below zero is zero. -/
def precision (arguments : Arguments) : Option Extent →
    Except TemplateError (Option Nat × Arguments)
  | none => .ok (none, arguments)
  | some given => do
    let (size, arguments) ← arguments.extent given
    if greatestPrecision < size.natAbs then .error .precisionTooLarge
    else .ok (some size.toNat, arguments)

/-- Whether there are arguments that no directive has asked for. Fields need not be asked for. -/
def unused (arguments : Arguments) : Bool :=
  arguments.fields.isNone && !arguments.left.isEmpty

end Arguments

/-! ### Conversions -/

/-- What an argument is written as, before it is brought to a width. -/
inductive Converted where
  | text (body : List Char)
  | number (negative : Bool) (mark body : List Char)

/-- The argument as a whole number, if it is one. -/
def whole? : Json → Option Int
  | .int value => some value
  | .bool value => some (if value then 1 else 0)
  | _ => none

/-- The argument as a whole number; the places after the point of a double are dropped. -/
def truncated (letter : Char) (argument : Json) : Except TemplateError Int :=
  match argument with
  | .float value =>
    if value.isNaN then .error .notANumber
    else if value.isInf then .error .infinite
    else .ok (Decimal.wholePart value)
  | other =>
    match whole? other with
    | some value => .ok value
    | none => .error (.notNumber letter other.typeName)

/-- The argument as a double. -/
def real (argument : Json) : Except TemplateError Float :=
  match argument with
  | .float value => .ok value
  | other =>
    match whole? other with
    | some value =>
      let nearest := Decimal.intToFloat value
      if nearest.isInf then .error .tooLarge else .ok nearest
    | none => .error (.notReal other.typeName)

/-- A whole number with at least the given number of digits. -/
def wholeNumber (base : Nat) (mark : List Char) (least : Option Nat) (value : Int) : Converted :=
  let digits := Nat.toDigits base value.natAbs
  .number (value < 0) mark (List.replicate (least.getD 0 - digits.length) '0' ++ digits)

/-- A whole number in a base other than ten, which a mark may tell. -/
def basedNumber (letter : Char) (base : Nat) (flags : Flags) (least : Option Nat)
    (argument : Json) : Except TemplateError Converted :=
  match whole? argument with
  | some value => .ok (wholeNumber base (if flags.marked then ['0', letter] else []) least value)
  | none => .error (.notWhole letter argument.typeName)

/-- A double. Six is the number of places, or of digits, that nobody has asked to be different. -/
def realNumber (letter : Char) (flags : Flags) (precision : Option Nat) (value : Float) :
    Converted :=
  if value.isNaN then .number false [] "nan".toList
  else
    let binary := Decimal.Binary.ofFloat value
    if value.isInf then .number binary.negative [] "inf".toList
    else
      let size := precision.getD 6
      let numeral :=
        if letter = 'f' then Decimal.Numeral.positional size binary
        else if letter = 'e' then Decimal.Numeral.scientific size binary
        else
          let general := Decimal.Numeral.general (max size 1) binary
          if flags.marked then general else general.trimmed
      .number binary.negative [] (numeral.text flags.marked)

/-- The argument as a character: a text of one, or its number. -/
def character (argument : Json) : Except TemplateError Char :=
  match argument with
  | .str text =>
    match text.toList with
    | [c] => .ok c
    | _ => .error .notCharacter
  | other =>
    match whole? other with
    | some value =>
      if 0 ≤ value ∧ value < 0x110000 then .ok (Char.ofNat value.toNat)
      else .error .noSuchCharacter
    | none => .error .notCharacter

/-- A text cut to a number of characters. -/
def cut (precision : Option Nat) (text : String) : Converted :=
  .text (match precision with
    | some most => text.toList.take most
    | none => text.toList)

/-- A conversion with its letters as capitals. -/
def Converted.capitals : Converted → Converted
  | .text body => .text body
  | .number negative mark body =>
    .number negative (mark.map Char.toUpper) (body.map Char.toUpper)

/-- The argument as the letter of a directive says. -/
def convert (limits : Limits) (letter : Char) (position : Nat) (flags : Flags)
    (precision : Option Nat) (argument : Json) : Except TemplateError Converted :=
  match letter with
  | 's' => ((argument.toText limits).mapError .excess).map (cut precision)
  | 'r' => ((argument.shown limits Text.quoted).mapError .excess).map (cut precision)
  | 'a' =>
    ((argument.shown limits Text.quoted).mapError .excess).map fun text =>
      cut precision (Text.asciiOnly text)
  | 'd' | 'i' | 'u' => do
    let number ← truncated letter argument
    match limits.digitExcess? (Decimal.natDigits number.natAbs).length false with
    | some cause => .error (.excess cause)
    | none => .ok (wholeNumber 10 [] precision number)
  | 'o' => basedNumber letter 8 flags precision argument
  | 'x' => basedNumber letter 16 flags precision argument
  | 'X' => (basedNumber letter 16 flags precision argument).map Converted.capitals
  | 'e' | 'f' | 'g' => (real argument).map (realNumber letter flags precision)
  | 'E' | 'F' | 'G' =>
    (real argument).map fun value => (realNumber letter.toLower flags precision value).capitals
  | 'c' => (character argument).map fun c => .text [c]
  | _ => .error (.unknownLetter letter position)

/-- A conversion brought to a width, by blanks on the side that the flags tell or by zeros between
the sign and the digits of a number. -/
def Converted.arrange (flags : Flags) (width : Nat) : Converted → List Char
  | .text body =>
    let gap := List.replicate (width - body.length) ' '
    if flags.toLeft then body ++ gap else gap ++ body
  | .number negative mark body =>
    let sign :=
      if negative then ['-'] else if flags.plus then ['+'] else if flags.blank then [' '] else []
    let missing := width - (sign.length + mark.length + body.length)
    if flags.toLeft then sign ++ mark ++ body ++ List.replicate missing ' '
    else if flags.zeros then sign ++ mark ++ List.replicate missing '0' ++ body
    else List.replicate missing ' ' ++ sign ++ mark ++ body

/-! ### Filling -/

/-- What a directive is replaced by, and the arguments after it. A width below zero is one to the
left. -/
def Directive.fill (limits : Limits) (directive : Directive) (arguments : Arguments) :
    Except TemplateError (List Char × Arguments) := do
  let arguments ← arguments.enter directive.origin
  let (width, arguments) ← arguments.width directive.width
  let (precision, arguments) ← arguments.precision directive.precision
  match directive.letter with
  | none => .error .unfinished
  | some (letter, position) =>
    let (argument, arguments) ← arguments.next
    let converted ← convert limits letter position directive.flags precision argument
    let flags := { directive.flags with toLeft := directive.flags.toLeft || width < 0 }
    .ok (converted.arrange flags width.natAbs, arguments)

/-- The pieces of a template with their directives replaced. -/
def fillPieces (limits : Limits) (arguments : Arguments) :
    List Piece → Except TemplateError (List Char)
  | [] => if arguments.unused then .error .unusedArgument else .ok []
  | .char c :: pieces => (fillPieces limits arguments pieces).map (c :: ·)
  | .directive directive :: pieces => do
    let (text, arguments) ← directive.fill limits arguments
    let filled ← fillPieces limits arguments pieces
    .ok (text ++ filled)

/-- A template with its directives replaced. Without arguments it is taken literally. -/
def fill (limits : Limits) (template : String) (arguments : List Json) :
    Except TemplateError String :=
  if arguments.isEmpty then .ok template
  else (fillPieces limits (.ofList arguments) (pieces template)).map String.ofList

end Flowchart.Log
