import Flowchart.Log.Report
import Flowchart.Proofs.Json.Shown

/-!
What the lines of a log are.

Messages are templates with arguments, and all that is logged about a diagram puts texts and whole
numbers into literal text. Such a template is filled part by part: a text stands for itself, and a
number is written with its digits, as far as the limits allow so many. So a line says what happened,
behind the names of its level and of its logger.

Of templates of any kind it is shown that what is brought to a width has this width, and that a
number with a given number of places has them and is never off by more than half a unit of the last
one.

Main definitions: `Part`, `Message.Consists`. Main statements: `fill_parts`, `logAll_eq` with
`consists_ofDiagramEvent` and `consists_ofLayoutEvent`, `fill_plain`, `length_arrange`,
`roundedQuotient_nearest`.
-/

namespace Flowchart.Log

/-! ### Parts of a template -/

/-- A part of a template with its argument, if it takes one. -/
inductive Part where
  | literal (spelled : String)
  | text (value : String)
  | number (value : Int)

namespace Part

/-- How a template spells a part. -/
def spelling : Part → List Char
  | .literal spelled => spelled.toList
  | .text _ => ['%', 's']
  | .number _ => ['%', 'd']

/-- The arguments that a part takes. -/
def arguments : Part → List Json
  | .literal _ => []
  | .text value => [.str value]
  | .number value => [.int value]

/-- What stands in the place of a part once the template is filled. -/
def filled : Part → List Char
  | .literal spelled => spelled.toList
  | .text value => value.toList
  | .number value => (Decimal.intText value).toList

/-- A part without a percent sign of its own, and with no more digits than a number may have. -/
def Plain (limits : Limits) : Part → Prop
  | .literal spelled => '%' ∉ spelled.toList
  | .text _ => True
  | .number value => exceeds limits.digits (Decimal.natDigits value.natAbs).length = false

end Part

/-! ### Directives -/

/-- A directive of nothing but a letter. -/
def lettered (letter : Char) (position : Nat) : Directive where
  letter := some (letter, position)

variable (limits : Limits)

theorem width_none (arguments : Arguments) : arguments.width none = .ok (0, arguments) := by
  rw [Arguments.width]
  change (if greatestWidth < (0 : Int).natAbs then (.error .widthTooLarge : Except _ _)
    else .ok (0, arguments)) = _
  exact if_neg (Nat.not_lt_zero _)

/-- An argument that a letter alone is for is written as the letter says, and nothing is added. -/
theorem fill_entered {origin : Origin} {before : Arguments} {argument : Json} {left : List Json}
    {fields : Option (Keyed Json)}
    (entered : before.enter origin = .ok ⟨argument :: left, fields⟩) (letter : Char)
    (position : Nat) :
    Directive.fill limits { origin := origin, letter := some (letter, position) } before =
      (convert limits letter position {} none argument).map fun converted =>
        (converted.arrange {} 0, ⟨left, fields⟩) := by
  simp only [Directive.fill, entered, Except.bind, bind, width_none, Arguments.precision]
  change (convert limits letter position {} none argument).bind _ = _
  cases convert limits letter position {} none argument <;> rfl

theorem convert_text (position : Nat) (value : String) :
    convert limits 's' position {} none (.str value) = .ok (.text value.toList) :=
  rfl

theorem arrange_text (body : List Char) : (Converted.text body).arrange {} 0 = body := by
  simp [Converted.arrange]

/-- The letter for texts takes the next argument as it is. -/
theorem fill_text (position : Nat) (value : String) (left : List Json) :
    (lettered 's' position).fill limits ⟨.str value :: left, none⟩ =
      .ok (value.toList, ⟨left, none⟩) := by
  rw [lettered, fill_entered limits rfl, convert_text, Except.map, arrange_text]

/-- The letter for whole numbers takes the digits of the next argument, if they are within the
limits. -/
theorem fill_number (position : Nat) {value : Int} (left : List Json)
    (short : exceeds limits.digits (Decimal.natDigits value.natAbs).length = false) :
    (lettered 'd' position).fill limits ⟨.int value :: left, none⟩ =
      .ok ((Decimal.intText value).toList, ⟨left, none⟩) := by
  have within : limits.digitExcess? (Decimal.natDigits value.natAbs).length false = none :=
    Limits.digitExcess?_eq_none.mpr short
  have converted : convert limits 'd' position {} none (.int value) =
      .ok (wholeNumber 10 [] none value) := by
    have given : truncated 'd' (.int value) = .ok value := rfl
    simp [convert, given, bind, Except.bind, within]
  have digits : Nat.toDigits 10 value.natAbs = Decimal.natDigits value.natAbs := rfl
  rw [lettered, fill_entered limits rfl, converted]
  by_cases negative : value < 0 <;>
    simp [Except.map, wholeNumber, Converted.arrange, Decimal.intText, Decimal.natText, negative,
      digits]

/-- A field that a directive names is the only argument from there on. -/
theorem fill_field {before : Arguments} {fields : Keyed Json} {name value : String}
    (given : before.fields = some fields) (found : Keyed.find? name fields = some (.str value))
    (position : Nat) :
    Directive.fill limits { origin := .field name, letter := some ('s', position) } before =
      .ok (value.toList, ⟨[], some fields⟩) := by
  have entered : before.enter (.field name) = .ok ⟨[.str value], some fields⟩ := by
    simp [Arguments.enter, given, found]
  rw [fill_entered limits entered, convert_text, Except.map, arrange_text]

/-! ### Templates -/

/-- Text without percent signs is kept. -/
theorem readPieces_literal (stop : Nat) {text : List Char} (literal : '%' ∉ text)
    (rest : List Char) :
    readPieces stop (text ++ rest) = text.map Piece.char ++ readPieces stop rest := by
  induction text with
  | nil => rfl
  | cons c text ih =>
      have other : c ≠ '%' := fun same => literal (same ▸ List.mem_cons_self)
      have tail := ih fun member => literal (List.mem_cons_of_mem _ member)
      rw [List.cons_append, readPieces, if_neg other, tail]
      · rfl
      · exact fun _ same => absurd same other

/-- A percent sign with a letter is a directive without any options. -/
theorem readPieces_lettered (stop : Nat) {letter : Char} (known : letter ∈ ['s', 'd'])
    (rest : List Char) :
    readPieces stop ('%' :: letter :: rest) =
      .directive (lettered letter (stop - (rest.length + 1))) :: readPieces stop rest := by
  have letters : letter = 's' ∨ letter = 'd' := by simpa using known
  have read : Directive.read stop (letter :: rest) =
      (lettered letter (stop - (rest.length + 1)), rest) := by
    rcases letters with rfl | rfl <;>
      simp [Directive.read, Origin.read, Flags.read, Flags.raise?, readWidth, readPrecision,
        skipSize, lettered]
  rw [readPieces, if_pos rfl, read]
  · simp
  · rintro _ - same
    rcases letters with rfl | rfl <;> cases same

theorem fillPieces_literal (arguments : Arguments) (text : List Char) (pieces : List Piece) :
    fillPieces limits arguments (text.map Piece.char ++ pieces) =
      (fillPieces limits arguments pieces).map (text ++ ·) := by
  induction text with
  | nil =>
      rw [List.map_nil, List.nil_append]
      cases fillPieces limits arguments pieces <;> rfl
  | cons c text ih =>
      rw [List.map_cons, List.cons_append, fillPieces, ih]
      cases fillPieces limits arguments pieces <;> rfl

theorem fillPieces_directive {directive : Directive} {before after : Arguments} {text : List Char}
    (filled : directive.fill limits before = .ok (text, after)) (pieces : List Piece) :
    fillPieces limits before (.directive directive :: pieces) =
      (fillPieces limits after pieces).map (text ++ ·) := by
  rw [fillPieces, filled]
  change (fillPieces limits after pieces).bind (fun filled => .ok (text ++ filled)) = _
  cases fillPieces limits after pieces <;> rfl

/-- The parts of a template are filled one after the other. -/
theorem fillPieces_parts (stop : Nat) {parts : List Part}
    (plain : ∀ part ∈ parts, part.Plain limits) :
    fillPieces limits ⟨parts.flatMap Part.arguments, none⟩
        (readPieces stop (parts.flatMap Part.spelling)) =
      .ok (parts.flatMap Part.filled) := by
  induction parts with
  | nil =>
      rw [List.flatMap_nil, List.flatMap_nil, readPieces]
      rfl
  | cons part parts ih =>
      rw [List.forall_mem_cons] at plain
      have others := ih plain.2
      simp only [List.flatMap_cons]
      cases part with
      | literal spelled =>
          rw [Part.spelling, readPieces_literal stop plain.1, fillPieces_literal]
          exact congrArg (Except.map _) others
      | text value =>
          rw [Part.spelling, List.cons_append, List.cons_append, List.nil_append,
            readPieces_lettered stop (by simp)]
          refine (fillPieces_directive limits (fill_text limits _ value _) _).trans ?_
          exact congrArg (Except.map _) others
      | number value =>
          rw [Part.spelling, List.cons_append, List.cons_append, List.nil_append,
            readPieces_lettered stop (by simp)]
          refine (fillPieces_directive limits (fill_number limits _ _ plain.1) _).trans ?_
          exact congrArg (Except.map _) others

/-- No part takes an object, so that no argument gives fields. -/
theorem ofList_arguments (parts : List Part) :
    Arguments.ofList (parts.flatMap Part.arguments) = ⟨parts.flatMap Part.arguments, none⟩ := by
  have each : ∀ argument ∈ parts.flatMap Part.arguments, argument.isObject = false := by
    intro argument member
    obtain ⟨part, -, taken⟩ := List.mem_flatMap.mp member
    cases part with
    | literal text => cases taken
    | text value => rw [List.mem_singleton.mp taken]; rfl
    | number value => rw [List.mem_singleton.mp taken]; rfl
  generalize parts.flatMap Part.arguments = arguments at each
  unfold Arguments.ofList
  split
  case h_1 field fields => cases each (.obj (field :: fields)) (by simp)
  case h_2 => rfl

/-- A template of parts is filled part by part. -/
theorem fill_parts {parts : List Part} (plain : ∀ part ∈ parts, part.Plain limits) :
    fill limits (String.ofList (parts.flatMap Part.spelling)) (parts.flatMap Part.arguments) =
      .ok (String.ofList (parts.flatMap Part.filled)) := by
  rw [fill]
  split
  case isTrue none =>
    -- Without arguments all parts are literal, and the template stands for itself.
    have literal : ∀ part ∈ parts, part.spelling = part.filled := by
      intro part member
      cases part with
      | literal text => rfl
      | text value =>
          have taken : Json.str value ∈ parts.flatMap Part.arguments :=
            List.mem_flatMap.mpr ⟨_, member, by simp [Part.arguments]⟩
          rw [List.isEmpty_iff.mp none] at taken
          cases taken
      | number value =>
          have taken : Json.int value ∈ parts.flatMap Part.arguments :=
            List.mem_flatMap.mpr ⟨_, member, by simp [Part.arguments]⟩
          rw [List.isEmpty_iff.mp none] at taken
          cases taken
    rw [List.flatMap_def, List.map_congr_left literal, ← List.flatMap_def]
  case isFalse =>
    rw [pieces, String.toList_ofList, ofList_arguments, fillPieces_parts limits _ plain]
    rfl

/-! ### Messages -/

/-- A message whose template is made of the given parts. -/
structure Message.Consists (message : Message) (parts : List Part) : Prop where
  template : message.template = String.ofList (parts.flatMap Part.spelling)
  arguments : message.arguments = parts.flatMap Part.arguments
  literal : ∀ spelled, .literal spelled ∈ parts → '%' ∉ spelled.toList

/-- The text of parts. -/
def wording (parts : List Part) : String :=
  String.ofList (parts.flatMap Part.filled)

/-- A message is written with its parts filled, if no number in it has too many digits. -/
theorem Message.Consists.log_eq {message : Message} {parts : List Part}
    (consists : message.Consists parts)
    (within : ∀ value, .number value ∈ parts →
      exceeds limits.digits (Decimal.natDigits value.natAbs).length = false)
    (logging : Logging) :
    logging.log limits message = logging.write message.logger message.level (wording parts) := by
  have plain : ∀ part ∈ parts, part.Plain limits := by
    intro part member
    cases part with
    | literal spelled => exact consists.literal spelled member
    | text value => trivial
    | number value => exact within value member
  rw [Logging.log, consists.template, consists.arguments, fill_parts limits plain]
  rfl

/-- What is said about an event of a parse. -/
def diagramParts : Diagram.Event → List Part
  | .strictReadingFailed cause =>
    [.literal "Grammar interpreter failed, falling back to heuristic parser: ",
      .text cause.toFailure.describe]
  | .malformedMetadata payload =>
    [.literal "Ignoring malformed metadata comment: ", .text payload]
  | .skippedVertex id => [.literal "Skipping vertex ", .text id, .literal ": id already used"]
  | .danglingArc source target =>
    [.literal "Dropping dangling edge ", .text source, .literal " -> ", .text target]
  | .strictCount nodes edges =>
    [.literal "Grammar interpreter: ", .number nodes, .literal " nodes, ", .number edges,
      .literal " edges"]
  | .forgivingCount nodes edges =>
    [.literal "Fallback parser: ", .number nodes, .literal " nodes, ", .number edges,
      .literal " edges"]

/-- What is said about an event of a layout. -/
def layoutParts : Graph.LayoutEvent → List Part
  | .resolverStopped passes =>
    [.literal "Overlap resolver stopped after ", .number passes, .literal " passes"]
  | .lanes groups orphans =>
    [.literal "Laid out ", .number groups, .literal " groups and ", .number orphans,
      .literal " orphans"]

/-- The message for an event of a parse consists of the parts that it should. -/
theorem consists_ofDiagramEvent (event : Diagram.Event) :
    (ofDiagramEvent event).Consists (diagramParts event) := by
  cases event <;> exact ⟨by rfl, rfl, by simp [diagramParts]⟩

/-- The message for an event of a layout consists of the parts that it should. -/
theorem consists_ofLayoutEvent (event : Graph.LayoutEvent) :
    (ofLayoutEvent event).Consists (layoutParts event) := by
  cases event <;> exact ⟨by rfl, rfl, by simp [layoutParts]⟩

/-- The lines of a log are those of its messages, in order. -/
theorem logAll_eq (logging : Logging) {ι : Type} {events : List ι} {message : ι → Message}
    {parts : ι → List Part} (consists : ∀ event, (message event).Consists (parts event))
    (within : ∀ event ∈ events, ∀ value, .number value ∈ parts event →
      exceeds limits.digits (Decimal.natDigits value.natAbs).length = false) :
    logging.logAll limits (events.map message) =
      String.join (events.map fun event =>
        logging.write (message event).logger (message event).level (wording (parts event))) := by
  rw [Logging.logAll, List.map_map]
  congr 1
  exact List.map_congr_left fun event member =>
    (consists event).log_eq limits (within event member) logging

/-- The plain line of a record is a template as well, filled with the fields of the record. -/
theorem fill_plain (record : Record) :
    fill limits "%(levelname)s %(name)s %(message)s"
        [.obj [("levelname", .str record.levelName), ("name", .str record.logger),
          ("message", .str record.message)]] =
      .ok (Style.plain.write record) := by
  have parts : pieces "%(levelname)s %(name)s %(message)s" =
      [.directive { origin := .field "levelname", letter := some ('s', 12) }, .char ' ',
        .directive { origin := .field "name", letter := some ('s', 21) }, .char ' ',
        .directive { origin := .field "message", letter := some ('s', 33) }] := by
    simp [pieces, readPieces, Directive.read, Origin.read, readName?, Flags.read, Flags.raise?,
      readWidth, readPrecision, skipSize]
  generalize given : [("levelname", Json.str record.levelName), ("name", .str record.logger),
    ("message", .str record.message)] = fields
  have level : Keyed.find? "levelname" fields = some (.str record.levelName) := by
    rw [← given]
    rfl
  have name : Keyed.find? "name" fields = some (.str record.logger) := by
    rw [← given]
    rfl
  have message : Keyed.find? "message" fields = some (.str record.message) := by
    rw [← given]
    rfl
  have start : Arguments.ofList [.obj fields] = ⟨[.obj fields], some fields⟩ := by
    rw [← given]
    rfl
  have space := fillPieces_literal limits ⟨[], some fields⟩ [' ']
  simp only [List.map_cons, List.map_nil, List.cons_append, List.nil_append] at space
  rw [fill, if_neg (by simp), parts, start,
    fillPieces_directive limits (fill_field limits rfl level _), space,
    fillPieces_directive limits (fill_field limits rfl name _), space,
    fillPieces_directive limits (fill_field limits rfl message _)]
  simp [fillPieces, Arguments.unused, Except.map, Style.write, String.append_assoc]

/-! ### Widths and places -/

/-- The number of characters in a conversion, with a sign if it has one. -/
def Converted.size (flags : Flags) : Converted → Nat
  | .text body => body.length
  | .number negative mark body =>
    (if negative || flags.plus || flags.blank then 1 else 0) + mark.length + body.length

/-- A conversion is brought to its width, and never cut. -/
theorem length_arrange (flags : Flags) (width : Nat) (converted : Converted) :
    (converted.arrange flags width).length = max width (converted.size flags) := by
  cases converted with
  | text body =>
      simp only [Converted.arrange, Converted.size]
      split <;> simp <;> omega
  | number negative mark body =>
      simp only [Converted.arrange, Converted.size]
      cases negative <;> cases flags.plus <;> cases flags.blank <;> cases flags.toLeft <;>
        cases flags.zeros <;> simp <;> omega

end Flowchart.Log

namespace Flowchart.Decimal

/-- A quotient is rounded to a nearest whole number, and in the middle of two to the even one. -/
theorem roundedQuotient_nearest (numerator : Nat) {denominator : Nat} (some : denominator ≠ 0) :
    2 * (roundedQuotient numerator denominator * denominator) ≤ 2 * numerator + denominator ∧
      2 * numerator ≤ 2 * (roundedQuotient numerator denominator * denominator) + denominator ∧
      (2 * numerator + denominator = 2 * (roundedQuotient numerator denominator * denominator) ∨
        2 * numerator = 2 * (roundedQuotient numerator denominator * denominator) + denominator →
          roundedQuotient numerator denominator % 2 = 0) := by
  have split := Nat.div_add_mod' numerator denominator
  have rest := Nat.mod_lt numerator (Nat.pos_of_ne_zero some)
  rw [roundedQuotient]
  split
  case isTrue down =>
    simp only [Bool.or_eq_true, Bool.and_eq_true, decide_eq_true_eq] at down
    omega
  case isFalse up =>
    simp only [Bool.or_eq_true, Bool.and_eq_true, decide_eq_true_eq, not_or, not_and] at up
    rw [Nat.add_mul, Nat.one_mul]
    omega

/-- A number with places has as many digits behind the point, and at least one before it. -/
theorem Numeral.length_positional (places : Nat) (b : Binary) :
    (positional places b).fraction.length = places ∧ (positional places b).whole ≠ [] := by
  have padded : places + 1 ≤ (List.replicate (places + 1 - (natDigits (b.rounded places)).length)
      '0' ++ natDigits (b.rounded places)).length := by
    rw [List.length_append, List.length_replicate]
    omega
  rw [positional, ofUnits]
  refine ⟨?_, ?_⟩
  · rw [List.length_drop]
    omega
  · rw [ne_eq, List.take_eq_nil_iff, ← List.length_eq_zero_iff]
    omega

end Flowchart.Decimal
