import Flowchart.CommandLine.Flag
import Flowchart.Decimal.Reader
import Flowchart.Limits
import Flowchart.Text.Quoted

/-!
Reading the arguments of the command line.

Flags and the file may come in any order. A flag may be shortened as long as only one flag starts
that way, and its value may follow it or stand behind an equals sign. After two dashes everything
is the file.

Main definition: `Arguments.read`.
-/

namespace Flowchart.CommandLine

/-! ### Results -/

/-- What the arguments say about a spacing. -/
inductive GivenSpacing where
  | absent
  /-- The flag is there, but nothing that could be a number. -/
  | blank
  | number (value : Float)
deriving Repr, Inhabited

/-- A spacing where there is another one if the arguments say nothing. -/
def GivenSpacing.over? (other : Float) : GivenSpacing → Option Float
  | absent => some other
  | blank => none
  | number value => some value

/-- What the arguments say. -/
structure Arguments where
  /-- The diagram file, a dash for standard input. -/
  file : String := "-"
  direction : Option String := none
  nodeSpacing : GivenSpacing := .absent
  rankSpacing : GivenSpacing := .absent
  noOverlap : Bool := false
  parseOnly : Bool := false
  stats : Bool := false
  indent : Int := 2
deriving Repr, Inhabited

/-- Why arguments are refused. -/
inductive UsageError where
  | ambiguous (given : String) (matching : List String)
  | missingValue (flag : Flag)
  | ignoredValue (flag : Flag) (given : String)
  | notWhole (flag : Flag) (given : String)
  | notNumber (flag : Flag) (given : String)
  | unrecognized (arguments : List String)
deriving Repr, Inhabited, DecidableEq

/-- The wording of a refusal. -/
def UsageError.message : UsageError → String
  | ambiguous given matching =>
    "ambiguous option: " ++ given ++ " could match " ++ String.intercalate ", " matching
  | missingValue flag => "argument " ++ flag.name ++ ": expected one argument"
  | ignoredValue flag given =>
    "argument " ++ flag.name ++ ": ignored explicit argument " ++ Text.quoted given
  | notWhole flag given =>
    "argument " ++ flag.name ++ ": invalid int value: " ++ Text.quoted given
  | notNumber flag given =>
    "argument " ++ flag.name ++ ": invalid float value: " ++ Text.quoted given
  | unrecognized arguments => "unrecognized arguments: " ++ String.intercalate " " arguments

/-- What is asked of the program. -/
inductive Request where
  | help
  | refused (cause : UsageError)
  | run (arguments : Arguments)
deriving Repr, Inhabited

/-! ### Words -/

/-- A word of the command line: a plain one, the two dashes that end the flags, a flag with the
value behind its equals sign, the short flag for help with letters behind it or behind its equals
sign, or something that looks like a flag and is none. -/
inductive Word where
  | plain (text : String)
  | separator
  | flag (flag : Flag) (explicit : Option String)
  | helpLetters (letters : List Char)
  | unknown (text : String)
deriving Repr, Inhabited, DecidableEq

/-- The two sides of the first equals sign. -/
def splitValue (text : List Char) : Option (List Char × List Char) :=
  match Text.run (· != '=') text with
  | (left, _ :: right) => some (left, right)
  | (_, []) => none

/-- Whether a text is a negative number, and so no flag: a minus sign, digits, and perhaps a point
with digits after it. A line feed may end it. -/
def isNegativeNumber (text : List Char) : Bool :=
  let text := if text.getLast? == some '\n' then text.dropLast else text
  let isDigit := fun (c : Char) => c.isDigit || (Text.digitValue? c).isSome
  match text with
  | '-' :: rest =>
    match Text.run isDigit rest with
    | (whole, []) => !whole.isEmpty
    | (_, '.' :: fraction) => !fraction.isEmpty && fraction.all isDigit
    | _ => false
  | _ => false

/-- The flags with long names that start with a text. -/
def startingWith (start : List Char) : List (String × Flag) :=
  Flag.spellings.filter fun entry => start.isPrefixOf entry.1.toList

/-- What a word is that starts with a dash and is neither a flag by itself nor up to its equals
sign. -/
def classifyInexact (word : String) (text : List Char) (start : List Char)
    (explicit : Option String) : Except UsageError Word :=
  match if "--".toList.isPrefixOf text then startingWith start else [] with
  | [entry] => .ok (.flag entry.2 explicit)
  | [] =>
    if isNegativeNumber text || text.contains ' ' then .ok (.plain word) else .ok (.unknown word)
  | several => .error (.ambiguous word (several.map Prod.fst))

/-- What a word before the two dashes is. -/
def classify (word : String) : Except UsageError Word :=
  match word.toList with
  | '-' :: 'h' :: '=' :: letters => .ok (.helpLetters letters)
  | '-' :: 'h' :: letter :: letters => .ok (.helpLetters (letter :: letters))
  | '-' :: c :: rest =>
    let text := '-' :: c :: rest
    match Flag.spellings.lookup word with
    | some flag => .ok (.flag flag none)
    | none =>
      match splitValue text with
      | none => classifyInexact word text text none
      | some (start, value) =>
        let explicit := some (String.ofList value)
        match Flag.spellings.lookup (String.ofList start) with
        | some flag => .ok (.flag flag explicit)
        | none => classifyInexact word text start explicit
  | _ => .ok (.plain word)

/-- What all words are. After two dashes every word is plain. -/
def classifyAll : List String → Except UsageError (List Word)
  | [] => .ok []
  | "--" :: rest => .ok (.separator :: rest.map Word.plain)
  | word :: rest =>
    match classify word with
    | .error cause => .error cause
    | .ok first => (classifyAll rest).map fun others => first :: others

/-! ### Values -/

/-- A number. -/
def readNumber (flag : Flag) (text : String) : Except UsageError Float :=
  match (Decimal.plainDigits? text).bind Decimal.readFloat? with
  | some number => .ok number
  | none => .error (.notNumber flag text)

/-- A whole number of no more digits than the limit. -/
def readWhole (limits : Limits) (flag : Flag) (text : String) : Except UsageError Int :=
  match (Decimal.plainDigits? text).filter fun plain =>
      !exceeds limits.digits (plain.filter Char.isDigit).length with
  | some plain =>
    match Decimal.readInt? plain with
    | some number => .ok number
    | none => .error (.notWhole flag text)
  | none => .error (.notWhole flag text)

/-- The arguments with a flag that has two dashes behind its equals sign: no direction, no indent,
and no number for a spacing. -/
def Arguments.setBlank (arguments : Arguments) (flag : Flag) : Arguments :=
  match flag with
  | .direction => { arguments with direction := none }
  | .nodeSpacing => { arguments with nodeSpacing := .blank }
  | .rankSpacing => { arguments with rankSpacing := .blank }
  | .indent => { arguments with indent := 0 }
  | .help | .noOverlap | .parseOnly | .stats => arguments

/-- The arguments with a flag that has a value. -/
def Arguments.setValue (limits : Limits) (arguments : Arguments) (flag : Flag) (text : String) :
    Except UsageError Arguments :=
  if text = "--" then .ok (arguments.setBlank flag)
  else
    match flag with
    | .direction => .ok { arguments with direction := some text }
    | .nodeSpacing =>
      (readNumber flag text).map fun value => { arguments with nodeSpacing := .number value }
    | .rankSpacing =>
      (readNumber flag text).map fun value => { arguments with rankSpacing := .number value }
    | .indent =>
      (readWhole limits flag text).map fun value => { arguments with indent := value }
    | .help | .noOverlap | .parseOnly | .stats => .ok arguments

/-- The arguments with a flag that has none. -/
def Arguments.setFlag (arguments : Arguments) (flag : Flag) : Arguments :=
  match flag with
  | .noOverlap => { arguments with noOverlap := true }
  | .parseOnly => { arguments with parseOnly := true }
  | .stats => { arguments with stats := true }
  | .help | .direction | .nodeSpacing | .rankSpacing | .indent => arguments

/-! ### Reading -/

/-- The arguments read so far: whether the file has been given, and the words that have no place. -/
structure Progress where
  arguments : Arguments := {}
  fileGiven : Bool := false
  extras : List String := []
deriving Repr, Inhabited

/-- The short flag for help with letters behind it. They may all ask for help again; from the first
on that does not, they are refused as a value. -/
def readHelpLetters : List Char → Request
  | ['h'] => .help
  | 'h' :: rest => readHelpLetters rest
  | letters => .refused (.ignoredValue .help (String.ofList letters))

/-- Words without any flag among them: the first is the file, the others have no place. -/
def Progress.takeWord (progress : Progress) (text : String) : Progress :=
  if progress.fileGiven then { progress with extras := progress.extras ++ [text] }
  else { progress with arguments := { progress.arguments with file := text }, fileGiven := true }

/-- The end of the words. -/
def Progress.finish (progress : Progress) : Request :=
  if progress.extras.isEmpty then .run progress.arguments
  else .refused (.unrecognized progress.extras)

/-- Read words one after the other. The two dashes themselves have no place once the file is
given, unless they come right after it. -/
def readWords (limits : Limits) (progress : Progress) : List Word → Request
  | [] => progress.finish
  | .plain text :: .separator :: rest =>
    if progress.fileGiven then
      readWords limits { progress with extras := progress.extras ++ [text, "--"] } rest
    else readWords limits (progress.takeWord text) rest
  | .plain text :: rest => readWords limits (progress.takeWord text) rest
  | .separator :: rest =>
    if progress.fileGiven then
      readWords limits { progress with extras := progress.extras ++ ["--"] } rest
    else
      match rest with
      | .plain text :: rest => readWords limits (progress.takeWord text) rest
      | rest => readWords limits { progress with fileGiven := true } rest
  | .unknown text :: rest =>
    readWords limits { progress with extras := progress.extras ++ [text] } rest
  | .helpLetters letters :: _ => readHelpLetters letters
  | .flag flag explicit :: rest =>
    if flag.takesValue then
      match explicit, rest with
      | some text, rest => readValue progress flag text rest
      | none, .plain text :: rest => readValue progress flag text rest
      | none, _ => .refused (.missingValue flag)
    else
      match explicit with
      | some text => .refused (.ignoredValue flag text)
      | none =>
        if flag = .help then .help
        else readWords limits { progress with arguments := progress.arguments.setFlag flag } rest
where
  /-- Read the value of a flag, and go on. -/
  readValue (progress : Progress) (flag : Flag) (text : String) (rest : List Word) : Request :=
    match progress.arguments.setValue limits flag text with
    | .error cause => .refused cause
    | .ok arguments => readWords limits { progress with arguments := arguments } rest

/-- What the words of the command line ask for. -/
def Arguments.read (limits : Limits) (words : List String) : Request :=
  match classifyAll words with
  | .error cause => .refused cause
  | .ok words => readWords limits {} words

end Flowchart.CommandLine
