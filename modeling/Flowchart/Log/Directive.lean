import Flowchart.Decimal.Reader

/-!
The directives of message templates. A directive is a percent sign, the name of a field in
parentheses, flags, a width, a precision and a letter; all but the sign and the letter may be left
out. Two percent signs in a row are one that stands for itself.
-/

namespace Flowchart.Log

open Text (run)

/-- Where a directive finds its argument. -/
inductive Origin where
  /-- The next argument in order. -/
  | next
  | field (name : String)
  /-- A name whose parenthesis is not closed. -/
  | unclosed
deriving Repr, Inhabited, DecidableEq

/-- A width or a precision: a number, or the next argument. -/
inductive Extent where
  | fixed (size : Nat)
  | next
deriving Repr, Inhabited, DecidableEq

/-- How numbers and the space around an argument are written. -/
structure Flags where
  toLeft : Bool := false
  plus : Bool := false
  blank : Bool := false
  /-- A mark of the base before a whole number, and a point after the digits of any other. -/
  marked : Bool := false
  zeros : Bool := false
deriving Repr, Inhabited, DecidableEq

/-- A place of a template that an argument goes to. -/
structure Directive where
  origin : Origin := .next
  flags : Flags := {}
  width : Option Extent := none
  precision : Option Extent := none
  /-- The letter with its position in the template. None stands at the end of the template. -/
  letter : Option (Char × Nat) := none
deriving Repr, Inhabited, DecidableEq

/-- A part of a template. -/
inductive Piece where
  | char (c : Char)
  | directive (directive : Directive)
deriving Repr, Inhabited, DecidableEq

/-- The flags with one more. -/
def Flags.raise? (flags : Flags) (c : Char) : Option Flags :=
  if c = '-' then some { flags with toLeft := true }
  else if c = '+' then some { flags with plus := true }
  else if c = ' ' then some { flags with blank := true }
  else if c = '#' then some { flags with marked := true }
  else if c = '0' then some { flags with zeros := true }
  else none

/-- All the flags at the front of a text. -/
def Flags.read (flags : Flags) : List Char → Flags × List Char
  | [] => (flags, [])
  | c :: rest =>
    match flags.raise? c with
    | some raised => raised.read rest
    | none => (flags, c :: rest)

/-- The text before the parenthesis that closes as many as are open; others may stand in between in
pairs. -/
def readName? (depth : Nat) : List Char → Option (List Char × List Char)
  | [] => none
  | c :: rest =>
    let deeper := if c = '(' then depth + 1 else if c = ')' then depth - 1 else depth
    if deeper = 0 then some ([], rest)
    else (readName? deeper rest).map fun (name, left) => (c :: name, left)

/-- Where the argument comes from. -/
def Origin.read : List Char → Origin × List Char
  | '(' :: rest =>
    match readName? 1 rest with
    | some (name, left) => (.field (String.ofList name), left)
    | none => (.unclosed, [])
  | text => (.next, text)

/-- A star or a number; a number may have no digit. -/
def Extent.read : List Char → Extent × List Char
  | '*' :: rest => (.next, rest)
  | text =>
    let (digits, rest) := run Char.isDigit text
    (.fixed (Decimal.asciiDigits digits), rest)

/-- A width. -/
def readWidth : List Char → Option Extent × List Char
  | [] => (none, [])
  | c :: rest =>
    if c = '*' || c.isDigit then
      let (extent, left) := Extent.read (c :: rest)
      (some extent, left)
    else (none, c :: rest)

/-- A point and a precision. -/
def readPrecision : List Char → Option Extent × List Char
  | '.' :: rest =>
    let (extent, left) := Extent.read rest
    (some extent, left)
  | text => (none, text)

/-- A text without the letter at its front that tells the size of a number, which has no meaning. -/
def skipSize : List Char → List Char
  | [] => []
  | c :: rest => if c = 'h' ∨ c = 'l' ∨ c = 'L' then rest else c :: rest

/-- A directive without its percent sign, the end of the template being at the given position. -/
def Directive.read (stop : Nat) (text : List Char) : Directive × List Char :=
  let (origin, text) := Origin.read text
  let (flags, text) := Flags.read {} text
  let (width, text) := readWidth text
  let (precision, text) := readPrecision text
  let directive : Directive := { origin, flags, width, precision }
  match skipSize text with
  | [] => (directive, [])
  | letter :: rest =>
    ({ directive with letter := some (letter, stop - (rest.length + 1)) }, rest)

/-- The parts of a template that ends at the given position. -/
def readPieces (stop : Nat) : List Char → List Piece
  | [] => []
  | '%' :: '%' :: rest => .char '%' :: readPieces stop rest
  | c :: rest =>
    if c = '%' then
      let (directive, left) := Directive.read stop rest
      if left.length ≤ rest.length then .directive directive :: readPieces stop left
      else [.directive directive]
    else .char c :: readPieces stop rest
termination_by text => text.length

/-- The parts of a template. -/
def pieces (template : String) : List Piece :=
  let text := template.toList
  readPieces text.length text

end Flowchart.Log
