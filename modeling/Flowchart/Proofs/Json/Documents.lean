import Mathlib.Data.List.Forall2
import Mathlib.Tactic.IntervalCases
import Flowchart.Proofs.Json.Numbers
import Flowchart.Proofs.Keyed

/-!
Documents are read again.

A value that is written, on one line or indented, is one document if all its numbers are finite: the
strict reader takes its text as a whole and has the same value at the end of it, but for doubles,
which are those that their texts spell, and for keys that an object repeats. The text of a value
with a number that is not finite is no document.

Main definitions: `Json.Readable`, `Json.reread`. Main statement: `Json.read_render`.
-/

namespace Flowchart.Json

open Text (Stops)

/-! ### Strings -/

/-- The controls are all escaped. -/
theorem readCharacter_control {n : Nat} (control : n < 0x20) (rest : List Char) :
    readCharacter (escapeChar (Char.ofNat n) ++ rest) = some (doubled (Char.ofNat n), rest) := by
  interval_cases n <;> rfl

/-- A character of a string is read from the way it is escaped. -/
theorem readCharacter_escapeChar (c : Char) (rest : List Char) :
    readCharacter (escapeChar c ++ rest) = some (doubled c, rest) := by
  by_cases control : c.toNat < 0x20
  · simpa using readCharacter_control control rest
  · by_cases quote : c = '"'
    · rw [quote]
      rfl
    · by_cases backslash : c = '\\'
      · rw [backslash]
        rfl
      · have plain : escapeChar c = [c] := by
          have shown : ∀ n < 0x20, c ≠ Char.ofNat n := by
            rintro n small rfl
            exact control (by interval_cases n <;> decide)
          have line : c ≠ '\n' := shown 10 (by decide)
          have back : c ≠ '\r' := shown 13 (by decide)
          have tab : c ≠ '\t' := shown 9 (by decide)
          rw [escapeChar, if_neg (by simp [quote, backslash]), if_neg line, if_neg back,
            if_neg tab, if_neg (by omega), if_neg (by omega), if_neg control]
        rw [plain, List.singleton_append, doubled, if_neg backslash]
        simp [readCharacter, quote, backslash, control]

theorem escapeChar_ne_nil (c : Char) : escapeChar c ≠ [] := by
  rw [escapeChar]
  split_ifs <;> simp

/-- The characters of a string are read up to its closing quote. -/
theorem many_readCharacter (text rest : List Char) :
    Text.many readCharacter (text.flatMap escapeChar ++ '"' :: rest) =
      (text.map doubled, '"' :: rest) := by
  induction text with
  | nil => exact Text.many_of_none rfl
  | cons c text ih =>
      have read := readCharacter_escapeChar c (text.flatMap escapeChar ++ '"' :: rest)
      have escaped := List.length_pos_iff.mpr (escapeChar_ne_nil c)
      rw [List.flatMap_cons, List.append_assoc, Text.many_of_some read (by simpa), ih]
      rfl

/-- A text in escaped form. -/
def escapedForm (text : String) : String :=
  String.ofList (text.toList.flatMap doubled)

/-- A string that has been written is read back up to its closing quote, in escaped form. -/
theorem readString_append (text : String) (rest : List Char) :
    readString (text.toList.flatMap escapeChar ++ '"' :: rest) =
      .ok (escapedForm text, rest) := by
  rw [readString, many_readCharacter, escapedForm, List.flatMap_def]
  rfl

/-- Doubling backslashes can be undone. -/
theorem undoubled?_flatMap_doubled (text : List Char) :
    undoubled? (text.flatMap doubled) = some text := by
  induction text with
  | nil => rfl
  | cons c text ih =>
      rw [List.flatMap_cons, doubled]
      split
      case isTrue backslash =>
        rw [backslash, List.cons_append, List.singleton_append, undoubled?, ih]
        rfl
      case isFalse other =>
        rw [List.singleton_append, undoubled?, if_neg other, ih]
        · rfl
        · exact fun rest same => absurd same other

/-- The escaped form of a text can be undone. -/
theorem plainText?_escapedForm (text : String) : plainText? (escapedForm text) = some text := by
  rw [plainText?, escapedForm, String.toList_ofList, undoubled?_flatMap_doubled]
  simp

theorem toList_stringText (text : String) (rest : List Char) :
    (stringText text).toList ++ rest = '"' :: (text.toList.flatMap escapeChar ++ '"' :: rest) := by
  simp [stringText]

/-! ### Values in front of other text -/

/-- Blanks between tokens, possibly none. -/
def Separators (text : List Char) : Prop :=
  ∀ c ∈ text, isSeparator c = true

theorem skipSeparators_append {gap text : List Char} (gaps : Separators gap)
    (stops : Stops isSeparator text) : skipSeparators (gap ++ text) = text :=
  Text.dropWhile_append_stops gaps stops

/-- No number goes on into a blank. -/
theorem isNumeral_of_isSeparator {c : Char} (blank : isSeparator c = true) :
    isNumeral c = false := by
  have separators : c = ' ' ∨ c = '\t' ∨ c = '\n' ∨ c = '\r' := by
    simpa [isSeparator, or_assoc] using blank
  rcases separators with rfl | rfl | rfl | rfl <;> rfl

/-- A text from which a value is read, or not, whatever follows that does not go on in it. It does
not begin with a blank or with the bracket that ends an array. -/
structure Readable (room : Nat) (text : List Char) (result : Except ReadError Json) : Prop where
  begins : ∃ c ∈ text.head?, isSeparator c = false ∧ c ≠ ']'
  reads : ∀ rest, Stops isNumeral rest →
    readValue .strict room (text ++ rest) = result.map (·, rest)

/-- A scalar that is not a string begins with a letter, a digit or a minus sign. -/
theorem readable_scalar {room : Nat} {text : List Char} {result : Except ReadError Json}
    (begins : ∃ c ∈ text.head?, c.isAlphanum = true ∨ c = '-')
    (reads : ∀ rest, Stops isNumeral rest →
      readScalar .strict (text ++ rest) = result.map (·, rest)) :
    Readable room text result := by
  obtain ⟨c, first, allowed⟩ := begins
  obtain ⟨text, rfl⟩ : ∃ tail, text = c :: tail := List.head?_eq_some_iff.mp first
  have marks : [' ', '\t', '\n', '\r', ']', '"', '[', '\x7b'].all
      (fun d => !(d.isAlphanum || d == '-')) = true := by decide
  have apart : ∀ d ∈ [' ', '\t', '\n', '\r', ']', '"', '[', '\x7b'], c ≠ d := by
    rintro d member rfl
    have mark := List.all_eq_true.mp marks c member
    rcases allowed with letter | rfl
    · simp [letter] at mark
    · cases mark
  simp only [List.forall_mem_cons] at apart
  obtain ⟨space, tab, line, back, close, quote, bracket, brace, -⟩ := apart
  refine ⟨⟨c, rfl, by simp [isSeparator, space, tab, line, back], close⟩, ?_⟩
  intro rest stops
  rw [← reads rest stops, List.cons_append, readValue]
  all_goals simp_all

/-- A string that has been written can be read in any room. -/
theorem readable_stringText (room : Nat) (text : String) :
    Readable room (stringText text).toList (.ok (str (escapedForm text))) where
  begins := ⟨'"', by simp [stringText], by decide, by decide⟩
  reads := by
    intro rest _
    rw [toList_stringText, readValue, readString_append]
    rfl

/-! ### Arrays and objects -/

section Brackets

variable {room : Nat} {gap back : List Char}

/-- The texts behind the first one, each behind a comma, and what ends them. -/
def behindFirst (gap : List Char) (parts : List (List Char)) (last : List Char) : List Char :=
  parts.flatMap (fun part => ',' :: (gap ++ part)) ++ last

theorem behindFirst_cons (gap part last : List Char) (parts : List (List Char)) :
    behindFirst gap (part :: parts) last =
      ',' :: (gap ++ (part ++ behindFirst gap parts last)) := by
  simp [behindFirst]

theorem intercalate_cons_append (gap first last : List Char) (parts : List (List Char)) :
    List.intercalate (',' :: gap) (first :: parts) ++ last =
      first ++ behindFirst gap parts last := by
  induction parts generalizing first with
  | nil => simp [behindFirst]
  | cons part parts ih =>
      rw [List.intercalate_cons_cons, List.append_assoc, List.append_assoc, ih part,
        behindFirst_cons, List.cons_append]

theorem stops_behindFirst {close : Char} (closing : isNumeral close = false)
    (backs : Separators back) (gap : List Char) (parts : List (List Char)) (rest : List Char) :
    Stops isNumeral (behindFirst gap parts (back ++ close :: rest)) := by
  cases parts with
  | cons part parts => exact Text.stops_cons rfl
  | nil =>
      cases back with
      | nil => exact Text.stops_cons closing
      | cons c back => exact Text.stops_cons (isNumeral_of_isSeparator (backs c (by simp)))

theorem skipSeparators_last {close : Char} (closing : isSeparator close = false)
    (backs : Separators back) (gap rest : List Char) :
    skipSeparators (behindFirst gap [] (back ++ close :: rest)) = close :: rest :=
  skipSeparators_append backs (Text.stops_cons closing)

/-- A value begins with something that is neither a blank nor the closing bracket. -/
theorem stops_of_begins {text : List Char} {close : Char}
    (begins : ∃ c ∈ text.head?, isSeparator c = false ∧ c ≠ close) (rest : List Char) :
    Stops isSeparator (text ++ rest) := by
  obtain ⟨c, first, outside, -⟩ := begins
  obtain ⟨text, rfl⟩ : ∃ tail, text = c :: tail := List.head?_eq_some_iff.mp first
  exact Text.stops_cons outside

/-- Results one after the other, up to the first that is none. -/
def inTurn {α : Type} : List (Except ReadError α) → Except ReadError (List α)
  | [] => .ok []
  | result :: results => result.bind fun item => (inTurn results).map (item :: ·)

/-- A reader of parts up to a bracket: it ends with a part that the bracket follows, and goes on
behind a comma. The count bounds the parts. -/
structure ReadsParts {α : Type} (close : Char)
    (IsPart : List Char → Except ReadError α → Prop)
    (read : Nat → List Char → Except ReadError (List α × List Char)) : Prop where
  closing : isNumeral close = false ∧ isSeparator close = false
  begins : ∀ {part result}, IsPart part result → ∃ c ∈ part.head?, isSeparator c = false ∧ c ≠ close
  last : ∀ {part result rest left}, IsPart part result → Stops isNumeral rest →
    skipSeparators rest = close :: left → ∀ count,
      read (count + 1) (part ++ rest) = result.map fun item => ([item], left)
  next : ∀ {part result rest more}, IsPart part result → Stops isNumeral rest →
    skipSeparators rest = ',' :: more → ∀ count,
      read (count + 1) (part ++ rest) = result.bind fun item =>
        (read count (skipSeparators more)).map fun others => (item :: others.1, others.2)

/-- Parts are read up to the bracket, or to the first of which there is no result. -/
theorem ReadsParts.append {α : Type} {close : Char}
    {IsPart : List Char → Except ReadError α → Prop}
    {read : Nat → List Char → Except ReadError (List α × List Char)}
    (reads : ReadsParts close IsPart read) (gaps : Separators gap) (backs : Separators back)
    {parts : List (List Char)} {first : List Char} {result : Except ReadError α}
    {results : List (Except ReadError α)} (isFirst : IsPart first result)
    (others : List.Forall₂ IsPart parts results) {count : Nat} (enough : parts.length < count)
    (rest : List Char) :
    read count (first ++ behindFirst gap parts (back ++ close :: rest)) =
      (inTurn (result :: results)).map (·, rest) := by
  obtain ⟨count, rfl⟩ := Nat.exists_eq_add_one_of_ne_zero (Nat.ne_zero_of_lt enough)
  induction others generalizing first result count with
  | nil =>
      have stops := stops_behindFirst reads.closing.1 backs gap [] rest
      rw [reads.last isFirst stops (skipSeparators_last reads.closing.2 backs gap rest)]
      cases result <;> rfl
  | @cons part next parts results isPart others ih =>
      have stops := stops_behindFirst reads.closing.1 backs gap (part :: parts) rest
      have begins := stops_of_begins (reads.begins isPart)
        (behindFirst gap parts (back ++ close :: rest))
      have comma : skipSeparators (behindFirst gap (part :: parts) (back ++ close :: rest)) =
          ',' :: (gap ++ (part ++ behindFirst gap parts (back ++ close :: rest))) := by
        rw [behindFirst_cons]
        exact Text.dropWhile_of_stops (Text.stops_cons rfl)
      rw [List.length_cons] at enough
      obtain ⟨count, rfl⟩ := Nat.exists_eq_add_one_of_ne_zero (n := count) (by omega)
      have further := ih isPart count (by omega)
      rw [reads.next isFirst stops comma, skipSeparators_append gaps begins, further]
      cases result with
      | error => rfl
      | ok item =>
          change Except.map _ (Except.map _ (inTurn (next :: results))) =
            Except.map _ (Except.map _ (inTurn (next :: results)))
          cases inTurn (next :: results) <;> rfl

/-- Items are read part by part. -/
theorem readsParts_readItems (room : Nat) :
    ReadsParts ']' (Readable room) (readItems .strict room) where
  closing := by decide
  begins := Readable.begins
  last := by
    intro part result rest left readable stops skipped count
    rw [readItems, readable.reads rest stops]
    cases result with
    | error => rfl
    | ok value =>
        simp only [Except.map, skipped]
  next := by
    intro part result rest more readable stops skipped count
    rw [readItems, readable.reads rest stops]
    cases result with
    | error => rfl
    | ok value =>
        simp only [Except.map, skipped]
        rfl

/-- A key with a value. -/
def IsField (room : Nat) (text : List Char) (result : Except ReadError (String × Json)) : Prop :=
  ∃ key value read, text = (stringText key).toList ++ ':' :: ' ' :: value ∧
    Readable room value read ∧ result = read.map (escapedForm key, ·)

/-- What is left after the value of a field decides how the object goes on. -/
theorem readFields_field {text rest : List Char} {result : Except ReadError (String × Json)}
    (field : IsField room text result) (stops : Stops isNumeral rest) (count : Nat) :
    readFields .strict room (count + 1) (text ++ rest) =
      result.bind fun entry =>
        match skipSeparators rest with
        | '\x7d' :: left => .ok ([entry], left)
        | ',' :: more =>
          (readFields .strict room count (skipSeparators more)).map fun others =>
            (entry :: others.1, others.2)
        | _ => .error .malformed := by
  obtain ⟨key, valueText, read, spelled, readable, rfl⟩ := field
  have reads := readable.reads rest stops
  have blank : Separators [' '] := by simp [Separators, isSeparator]
  have valued : skipSeparators (' ' :: (valueText ++ rest)) = valueText ++ rest :=
    skipSeparators_append blank (stops_of_begins readable.begins rest)
  have colon : skipSeparators (':' :: ' ' :: (valueText ++ rest)) =
      ':' :: ' ' :: (valueText ++ rest) := Text.dropWhile_of_stops (Text.stops_cons rfl)
  rw [spelled, List.append_assoc, toList_stringText, readFields]
  simp only [List.cons_append, readString_append, colon, valued, reads]
  cases read <;> rfl

/-- Fields are read part by part. -/
theorem readsParts_readFields (room : Nat) :
    ReadsParts '\x7d' (IsField room) (readFields .strict room) where
  closing := by decide
  begins := by
    rintro part result ⟨key, value, read, spelled, -⟩
    exact ⟨'"', by simp [spelled, stringText], by decide, by decide⟩
  last := by
    intro part result rest left field stops skipped count
    rw [readFields_field field stops count, skipped]
    cases result <;> rfl
  next := by
    intro part result rest more field stops skipped count
    rw [readFields_field field stops count, skipped]
    rfl

/-- An array or object with something in it: its parts behind blanks, with commas between them. -/
theorem bracketed_cons (left right : String) (indent : Option Nat) (level : Nat) (first : String)
    (parts : List String) :
    ∃ front gap back, Separators front ∧ Separators gap ∧ Separators back ∧
      (bracketed left right indent level (first :: parts)).toList =
        left.toList ++ (front ++ (first.toList ++
          behindFirst gap (parts.map String.toList) (back ++ right.toList))) := by
  have spaces : ∀ count, Separators ('\n' :: List.replicate count ' ') := by
    intro count c member
    rcases List.mem_cons.mp member with rfl | space
    · rfl
    · rw [List.eq_of_mem_replicate space]
      rfl
  cases indent with
  | none =>
      refine ⟨[], [' '], [], by simp [Separators], by simp [Separators, isSeparator],
        by simp [Separators], ?_⟩
      simp only [List.nil_append, ← intercalate_cons_append]
      simp [bracketed]
  | some width =>
      refine ⟨_, _, _, spaces (width * (level + 1)), spaces (width * (level + 1)),
        spaces (width * level), ?_⟩
      rw [← intercalate_cons_append]
      simp [bracketed]

/-- No part is longer than all of them together with what is between them. -/
theorem length_le_behindFirst (gap last : List Char) (parts : List (List Char)) :
    parts.length + last.length ≤ (behindFirst gap parts last).length ∧
      ∀ part ∈ parts, part.length + last.length ≤ (behindFirst gap parts last).length := by
  induction parts with
  | nil => simp [behindFirst]
  | cons part parts ih =>
      rw [behindFirst_cons]
      simp only [List.length_cons, List.length_append, List.forall_mem_cons]
      refine ⟨by omega, by omega, fun other member => ?_⟩
      have := ih.2 other member
      omega

/-- Each part of an array or object is shorter than the whole. -/
theorem length_lt_bracketed {left right : String} (opened : left ≠ "") {indent : Option Nat}
    {level : Nat} {parts : List String} :
    ∀ part ∈ parts, part.length < (bracketed left right indent level parts).length := by
  cases parts with
  | nil => simp
  | cons first parts =>
      obtain ⟨front, gap, back, -, -, -, text⟩ :=
        bracketed_cons left right indent level first parts
      have bounds := length_le_behindFirst gap (back ++ right.toList) (parts.map String.toList)
      have shown : left.toList.length ≠ 0 := by simpa using opened
      simp only [List.forall_mem_map, ← String.length_toList, text, List.length_append,
        List.forall_mem_cons] at bounds ⊢
      refine ⟨by omega, fun part member => ?_⟩
      have := bounds.2 part member
      omega

/-- What stands behind the opening bracket is read up to the closing one. -/
theorem ReadsParts.bracketed {α : Type} {close : Char}
    {IsPart : List Char → Except ReadError α → Prop}
    {read : Nat → List Char → Except ReadError (List α × List Char)}
    (reads : ReadsParts close IsPart read) (left right : String) {first : String}
    {parts : List String} {results : List (Except ReadError α)} (indent : Option Nat) (level : Nat)
    (closes : right.toList = [close])
    (each : List.Forall₂ (fun part result => IsPart part.toList result) (first :: parts) results)
    (rest : List Char) :
    ∃ inner, (Json.bracketed left right indent level (first :: parts)).toList ++ rest =
        left.toList ++ inner ∧
      (∀ text, skipSeparators inner ≠ close :: text) ∧
      read (skipSeparators inner).length (skipSeparators inner) =
        (inTurn results).map (·, rest) := by
  obtain ⟨front, gap, back, fronts, gaps, backs, text⟩ :=
    bracketed_cons left right indent level first parts
  cases each with
  | @cons _ result _ results isFirst areOthers =>
      have begins := reads.begins isFirst
      have others : List.Forall₂ IsPart (parts.map String.toList) results :=
        List.forall₂_map_left_iff.mpr areOthers
      have enough : (parts.map String.toList).length < (first.toList ++
          behindFirst gap (parts.map String.toList) (back ++ close :: rest)).length := by
        have bounds :=
          (length_le_behindFirst gap (back ++ close :: rest) (parts.map String.toList)).1
        simp only [List.length_append, List.length_cons] at bounds ⊢
        omega
      have done := reads.append gaps backs isFirst others enough rest
      refine ⟨front ++ (first.toList ++ behindFirst gap (parts.map String.toList)
        (back ++ close :: rest)), ?_, ?_, ?_⟩
      · rw [text, closes]
        simp [behindFirst]
      · rw [skipSeparators_append fronts (stops_of_begins begins _)]
        obtain ⟨c, head, -, other⟩ := begins
        obtain ⟨tail, same⟩ : ∃ tail, first.toList = c :: tail := List.head?_eq_some_iff.mp head
        rw [same]
        exact fun text equal => other (List.cons.inj equal).1
      · rw [skipSeparators_append fronts (stops_of_begins begins _)]
        exact done

/-- Parts between brackets are the text of a value, if values are read so that they end with a pair
of brackets with nothing in it and otherwise with what the parts end with. -/
theorem ReadsParts.readable {α : Type} {close : Char}
    {IsPart : List Char → Except ReadError α → Prop}
    {read : Nat → List Char → Except ReadError (List α × List Char)}
    (reads : ReadsParts close IsPart read) {left right : String} (opening : Char)
    (opens : left.toList = [opening]) (closes : right.toList = [close])
    (begins : isSeparator opening = false ∧ opening ≠ ']') (finish : List α → Json)
    (empty : ∀ text rest, skipSeparators text = close :: rest →
      readValue .strict (room + 1) (opening :: text) = .ok (finish [], rest))
    (entered : ∀ text, (∀ left, skipSeparators text ≠ close :: left) →
      readValue .strict (room + 1) (opening :: text) =
        (read (skipSeparators text).length (skipSeparators text)).map fun result =>
          (finish result.1, result.2))
    {parts : List String} {results : List (Except ReadError α)}
    (each : List.Forall₂ (fun part result => IsPart part.toList result) parts results)
    (indent : Option Nat) (level : Nat) :
    Readable (room + 1) (Json.bracketed left right indent level parts).toList
      ((inTurn results).map finish) := by
  cases parts with
  | nil =>
      have text : (Json.bracketed left right indent level []).toList = [opening, close] := by
        simp [Json.bracketed, opens, closes]
      cases each
      rw [text]
      refine ⟨⟨opening, rfl, begins⟩, fun rest _ => empty (close :: rest) rest ?_⟩
      exact Text.dropWhile_of_stops (Text.stops_cons reads.closing.2)
  | cons first parts =>
      refine ⟨?_, fun rest _ => ?_⟩
      · obtain ⟨_, _, _, -, -, -, text⟩ := bracketed_cons left right indent level first parts
        rw [text, opens]
        exact ⟨opening, rfl, begins⟩
      · obtain ⟨inner, text, other, done⟩ :=
          reads.bracketed left right indent level closes each rest
        rw [text, opens]
        refine (entered inner other).trans ?_
        rw [done]
        cases inTurn results <;> rfl

/-- Texts of values, put between brackets, are the text of an array. -/
theorem readable_array {parts : List String} {results : List (Except ReadError Json)}
    (each : List.Forall₂ (fun part result => Readable room part.toList result) parts results)
    (indent : Option Nat) (level : Nat) :
    Readable (room + 1) (Json.bracketed "[" "]" indent level parts).toList
      ((inTurn results).map arr) := by
  refine (readsParts_readItems room).readable '[' rfl rfl (by decide) arr ?_ ?_ each indent level
  · intro text rest nothing
    rw [readValue, nothing]
    rfl
  · intro text other
    rw [readValue]
    split
    case h_1 left closed => exact absurd closed (other left)
    case h_2 => rfl

/-- Fields, put between braces, are the text of an object. -/
theorem readable_object {parts : List String} {results : List (Except ReadError (String × Json))}
    (each : List.Forall₂ (fun part result => IsField room part.toList result) parts results)
    (indent : Option Nat) (level : Nat) :
    Readable (room + 1) (Json.bracketed "\x7b" "\x7d" indent level parts).toList
      ((inTurn results).map fun fields => obj (Keyed.ofPairs fields)) := by
  refine (readsParts_readFields room).readable '\x7b' rfl rfl (by decide)
    (fun fields => obj (Keyed.ofPairs fields)) ?_ ?_ each indent level
  · intro text rest nothing
    rw [readValue, nothing]
    rfl
  · intro text other
    rw [readValue]
    split
    case h_1 left closed => exact absurd closed (other left)
    case h_2 => rfl

end Brackets

/-! ### Written values -/

mutual

/-- Whether all doubles in a value are numbers that are not infinite. -/
def isFinite : Json → Bool
  | float x => isFiniteFloat x
  | arr items => itemsFinite items
  | obj fields | escaped fields => fieldsFinite fields
  | null | bool _ | int _ | str _ => true

/-- The same for the items of an array. -/
def itemsFinite : List Json → Bool
  | [] => true
  | item :: items => isFinite item && itemsFinite items

/-- The same for the fields of an object. -/
def fieldsFinite : List (String × Json) → Bool
  | [] => true
  | (_, value) :: fields => isFinite value && fieldsFinite fields

end

mutual

/-- A value as it is read again: a double is the one that its text spells, and a key that repeats
has one place. -/
def reread : Json → Json
  | float x => float (reparsed x)
  | arr items => arr (rereadItems items)
  | obj fields => obj (Keyed.ofPairs (rereadFields fields))
  | escaped fields => escaped fields
  | null => null
  | bool value => bool value
  | int value => int value
  | str text => str text

/-- The items of an array as they are read again. -/
def rereadItems : List Json → List Json
  | [] => []
  | item :: items => reread item :: rereadItems items

/-- The fields of an object as they are read again. -/
def rereadFields : List (String × Json) → List (String × Json)
  | [] => []
  | (key, value) :: fields => (key, reread value) :: rereadFields fields

end

mutual

/-- What is read from the text of a value, its strings in escaped form. -/
def reading : Json → Except ReadError Json
  | null => .ok null
  | bool value => .ok (bool value)
  | int value => .ok (int value)
  | float x => if isFiniteFloat x then .ok (float (reparsed x)) else .error .malformed
  | str text => .ok (str (escapedForm text))
  | arr items => (readingItems items).map arr
  | obj fields | escaped fields =>
    (readingFields fields).map fun fields => obj (Keyed.ofPairs fields)

/-- What is read from the items of an array. -/
def readingItems : List Json → Except ReadError (List Json)
  | [] => .ok []
  | item :: items => (reading item).bind fun item => (readingItems items).map (item :: ·)

/-- What is read from the fields of an object. -/
def readingFields : List (String × Json) → Except ReadError (List (String × Json))
  | [] => .ok []
  | (key, value) :: fields =>
    ((reading value).map (escapedForm key, ·)).bind fun field =>
      (readingFields fields).map (field :: ·)

end

/-- Items are read back in turn. -/
theorem readingItems_eq (items : List Json) : readingItems items = inTurn (items.map reading) := by
  induction items with
  | nil => rfl
  | cons item items ih => rw [readingItems, ih, List.map_cons, inTurn]

/-- Fields are read back in turn, with their names in escaped form. -/
theorem readingFields_eq (fields : List (String × Json)) :
    readingFields fields =
      inTurn (fields.map fun field => (reading field.2).map (escapedForm field.1, ·)) := by
  induction fields with
  | nil => rfl
  | cons field fields ih => rw [readingFields, ih, List.map_cons, inTurn]

/-- A whole number begins with a digit or a minus sign. -/
theorem begins_of_signed {negative : Bool} {c : Char} {digits : List Char}
    (digit : c.isDigit = true) :
    ∃ first ∈ (Decimal.signed negative (c :: digits)).head?,
      first.isAlphanum = true ∨ first = '-' := by
  cases negative with
  | true => exact ⟨'-', rfl, .inr rfl⟩
  | false => exact ⟨c, rfl, .inl (by simp [Char.isAlphanum, digit])⟩

/-- An integer that has been written can be read in any room. -/
theorem readable_int (room : Nat) (n : Int) :
    Readable room (Decimal.intText n).toList (.ok (int n)) := by
  refine readable_scalar ?_ fun rest stops => readScalar_int n stops
  obtain ⟨c, digits, spelled, digit⟩ :=
    exists_cons_of_isWhole (Decimal.isWhole_natDigits n.natAbs)
  rw [Decimal.toList_intText, spelled]
  exact begins_of_signed digit

/-- A float that has been written is read back in any room if it is finite, and refused if not. -/
theorem readable_float (room : Nat) (x : Float) :
    Readable room (Decimal.floatText Decimal.documentStyle x).toList (reading (float x)) := by
  rw [reading]
  cases finite : isFiniteFloat x with
  | true =>
      refine readable_scalar ?_ fun rest stops => readScalar_float finite stops
      obtain ⟨isNumber, bounded⟩ : x.isNaN = false ∧ x.isInf = false := by
        simpa [isFiniteFloat] using finite
      obtain ⟨negative, number, spelled, real⟩ :=
        Decimal.floatText_finite Decimal.documentStyle isNumber bounded
      obtain ⟨c, digits, rfl, digit⟩ := exists_cons_of_isReal real
      rw [spelled]
      exact begins_of_signed digit
  | false =>
      refine readable_scalar ?_ fun rest _ => readScalar_notFinite finite
      have unbounded : (x.isNaN || x.isInf) = true := (Bool.not_eq_false' _).mp finite
      rcases Decimal.floatText_notFinite Decimal.documentStyle unbounded with word | word | word
      · exact ⟨'N', by rw [word]; rfl, .inl (by decide)⟩
      · exact ⟨'I', by rw [word]; rfl, .inl (by decide)⟩
      · exact ⟨'-', by rw [word]; rfl, .inr rfl⟩

/-- There is room for an array or object, and for its parts one bracket less. -/
theorem exists_room {left right : String} (opened : left ≠ "") {indent : Option Nat} {level : Nat}
    {parts : List String} {room : Nat}
    (short : (bracketed left right indent level parts).length ≤ room) :
    ∃ inner, room = inner + 1 ∧ ∀ part ∈ parts, part.length ≤ inner := by
  have shown : (bracketed left right indent level parts).length ≠ 0 := by
    simpa using bracketed_ne_empty opened right indent level parts
  obtain ⟨inner, rfl⟩ := Nat.exists_eq_add_one_of_ne_zero (n := room) (by omega)
  refine ⟨inner, rfl, fun part member => ?_⟩
  have shorter : part.length < (bracketed left right indent level parts).length :=
    length_lt_bracketed opened part member
  omega

mutual

/-- From the text of a value the value is read; its nesting is never deeper than the text is
long. -/
theorem readable_renderAt (indent : Option Nat) (level : Nat) {room : Nat} :
    ∀ value : Json, (renderAt indent level value).length ≤ room →
      Readable room (renderAt indent level value).toList (reading value)
  | null => by
      intro _
      rw [renderAt, reading]
      exact readable_scalar ⟨'n', rfl, by decide⟩ fun _ _ => rfl
  | bool true => by
      intro _
      rw [renderAt, reading]
      exact readable_scalar ⟨'t', rfl, by decide⟩ fun _ _ => rfl
  | bool false => by
      intro _
      rw [renderAt, reading]
      exact readable_scalar ⟨'f', rfl, by decide⟩ fun _ _ => rfl
  | int n => by
      intro _
      rw [renderAt, reading]
      exact readable_int room n
  | float x => by
      intro _
      rw [renderAt]
      exact readable_float room x
  | str text => by
      intro _
      rw [renderAt, reading]
      exact readable_stringText room text
  | arr items => by
      intro short
      rw [renderAt] at short ⊢
      rw [reading, readingItems_eq]
      obtain ⟨room, rfl, shorter⟩ := exists_room (by decide) short
      exact readable_array (readable_renderItems indent (level + 1) items shorter) indent level
  | obj fields => by
      intro short
      rw [renderAt] at short ⊢
      rw [reading, readingFields_eq]
      obtain ⟨room, rfl, shorter⟩ := exists_room (by decide) short
      exact readable_object (isField_renderFields indent (level + 1) fields shorter) indent level
  | escaped fields => by
      intro short
      rw [renderAt] at short ⊢
      rw [reading, readingFields_eq]
      obtain ⟨room, rfl, shorter⟩ := exists_room (by decide) short
      exact readable_object (isField_renderFields indent (level + 1) fields shorter) indent level

/-- If all values that fit can be read, so can the items of an array. -/
theorem readable_renderItems (indent : Option Nat) (level : Nat) {room : Nat} :
    ∀ items : List Json, (∀ part ∈ renderItems indent level items, part.length ≤ room) →
      List.Forall₂ (fun part result => Readable room part.toList result)
        (renderItems indent level items) (items.map reading)
  | [] => by
      intro _
      exact .nil
  | item :: items => by
      intro short
      rw [renderItems, List.forall_mem_cons] at short
      exact .cons (readable_renderAt indent level item short.1)
        (readable_renderItems indent level items short.2)

theorem isField_renderFields (indent : Option Nat) (level : Nat) {room : Nat} :
    ∀ fields : List (String × Json),
      (∀ part ∈ renderFields indent level fields, part.length ≤ room) →
        List.Forall₂ (fun part result => IsField room part.toList result)
          (renderFields indent level fields)
          (fields.map fun field => (reading field.2).map (escapedForm field.1, ·))
  | [] => by
      intro _
      exact .nil
  | (key, value) :: fields => by
      intro short
      rw [renderFields, List.forall_mem_cons] at short
      have shorter : (renderAt indent level value).length ≤ room := by
        have whole := short.1
        simp only [String.length_append] at whole
        omega
      exact .cons ⟨key, _, _, by simp, readable_renderAt indent level value shorter, rfl⟩
        (isField_renderFields indent level fields short.2)

end

/-! ### Strings out of their escaped form -/

/-- A text that can be taken out of its escaped form is in escaped form. -/
theorem flatMap_doubled_of_undoubled? {text characters : List Char}
    (undone : undoubled? text = some characters) : characters.flatMap doubled = text := by
  induction text using undoubled?.induct generalizing characters with
  | case1 =>
      cases undone
      rfl
  | case2 rest ih =>
      rw [undoubled?, Option.map_eq_some_iff] at undone
      obtain ⟨others, isRest, rfl⟩ := undone
      rw [List.flatMap_cons, ih isRest]
      rfl
  | case3 rest single =>
      rw [undoubled?, if_pos rfl] at undone
      · cases undone
      · exact single
  | case4 c rest single other ih =>
      rw [undoubled?, if_neg other, Option.map_eq_some_iff] at undone
      · obtain ⟨others, isRest, rfl⟩ := undone
        rw [List.flatMap_cons, ih isRest, doubled, if_neg other]
        rfl
      · exact single

/-- Only one text has a given escaped form. -/
theorem plainText?_injective {text other plain : String} (first : plainText? text = some plain)
    (second : plainText? other = some plain) : text = other := by
  unfold plainText? at first second
  obtain ⟨characters, undone, rfl⟩ := Option.map_eq_some_iff.mp first
  obtain ⟨others, undone', same⟩ := Option.map_eq_some_iff.mp second
  obtain rfl := String.ofList_injective same
  apply String.toList_injective
  rw [← flatMap_doubled_of_undoubled? undone, ← flatMap_doubled_of_undoubled? undone']

/-- Fields come out of their escaped form one by one. -/
theorem plainFields?_cons {key : String} {value : Json} {fields : List (String × Json)}
    {plains : List (String × Json)} :
    plainFields? ((key, value) :: fields) = some plains ↔
      ∃ name plain others, plainText? key = some name ∧ value.plain? = some plain ∧
        plainFields? fields = some others ∧ plains = (name, plain) :: others := by
  rw [plainFields?]
  cases plainText? key with
  | none => simp
  | some name =>
      cases value.plain? with
      | none => simp
      | some plain => cases plainFields? fields <;> simp [eq_comm]

/-- Values under keys keep their places when the keys are taken out of their escaped form. -/
theorem plainFields?_put {key name : String} {value plain : Json} {fields plains : Keyed Json}
    (isName : plainText? key = some name) (isPlain : value.plain? = some plain)
    (areFields : plainFields? fields = some plains) :
    plainFields? (Keyed.put key value fields) = some (Keyed.put name plain plains) := by
  induction fields generalizing plains with
  | nil =>
      cases areFields
      exact plainFields?_cons.mpr ⟨name, plain, [], isName, isPlain, rfl, rfl⟩
  | cons field fields ih =>
      obtain ⟨other, found⟩ := field
      obtain ⟨name', plain', others, isName', isPlain', areOthers, rfl⟩ :=
        plainFields?_cons.mp areFields
      rw [Keyed.put, Keyed.put]
      by_cases same : other = key
      · subst same
        cases isName.symm.trans isName'
        rw [if_pos rfl, if_pos rfl]
        exact plainFields?_cons.mpr ⟨name, plain, others, isName, isPlain, areOthers, rfl⟩
      · have differ : name' ≠ name := by
          rintro rfl
          exact same (plainText?_injective isName' isName)
        rw [if_neg same, if_neg differ]
        exact plainFields?_cons.mpr ⟨name', plain', _, isName', isPlain', ih areOthers, rfl⟩

/-- Undoing the escaped form of names keeps which field of a name counts. -/
theorem plainFields?_ofPairs {fields plains : List (String × Json)}
    (areFields : plainFields? fields = some plains) :
    plainFields? (Keyed.ofPairs fields) = some (Keyed.ofPairs plains) := by
  have enter : ∀ (entered enteredPlain : Keyed Json),
      plainFields? entered = some enteredPlain →
        plainFields? (fields.foldl (fun entries pair => Keyed.put pair.1 pair.2 entries) entered) =
          some (plains.foldl (fun entries pair => Keyed.put pair.1 pair.2 entries)
            enteredPlain) := by
    induction fields generalizing plains with
    | nil =>
        cases areFields
        exact fun _ _ areEntered => areEntered
    | cons field fields ih =>
        obtain ⟨key, value⟩ := field
        obtain ⟨name, plain, others, isName, isPlain, areOthers, rfl⟩ :=
          plainFields?_cons.mp areFields
        intro entered enteredPlain areEntered
        exact ih areOthers _ _ (plainFields?_put isName isPlain areEntered)
  exact enter [] [] rfl

mutual

/-- What is read from the text of a value is the value as it is read again, if its numbers are
finite, and nothing otherwise. -/
theorem reading_eq : ∀ value : Json, value.encodable = true →
    if value.isFinite then ∃ read, reading value = .ok read ∧ read.plain? = some value.reread
    else reading value = .error .malformed
  | null => fun _ => ⟨null, rfl, rfl⟩
  | bool value => fun _ => ⟨bool value, rfl, rfl⟩
  | int value => fun _ => ⟨int value, rfl, rfl⟩
  | float x => by
      intro _
      rw [reading, isFinite, reread]
      split
      · exact ⟨_, rfl, rfl⟩
      · rfl
  | str text => by
      intro _
      refine ⟨str (escapedForm text), rfl, ?_⟩
      rw [plain?, plainText?_escapedForm]
      rfl
  | arr items => by
      intro encodable
      have each := readingItems_finite items encodable
      rw [reading, isFinite, reread]
      split at each
      case isTrue finite =>
        obtain ⟨read, done, plain⟩ := each
        rw [if_pos finite]
        refine ⟨arr read, by rw [done]; rfl, ?_⟩
        rw [plain?, plain]
        rfl
      case isFalse infinite =>
        rw [if_neg infinite, each]
        rfl
  | obj fields => by
      intro encodable
      have each := readingFields_finite fields encodable
      rw [reading, isFinite, reread]
      split at each
      case isTrue finite =>
        obtain ⟨read, done, plain⟩ := each
        rw [if_pos finite]
        refine ⟨obj (Keyed.ofPairs read), by rw [done]; rfl, ?_⟩
        rw [plain?, plainFields?_ofPairs plain]
        rfl
      case isFalse infinite =>
        rw [if_neg infinite, each]
        rfl
  | escaped fields => nofun

/-- Items are read back, up to their escaped form, exactly if all numbers in them are finite. -/
theorem readingItems_finite : ∀ items : List Json, itemsEncodable items = true →
    if itemsFinite items then
      ∃ read, readingItems items = .ok read ∧ plainItems? read = some (rereadItems items)
    else readingItems items = .error .malformed
  | [] => fun _ => ⟨[], rfl, rfl⟩
  | item :: items => by
      intro encodable
      rw [itemsEncodable, Bool.and_eq_true] at encodable
      have first := reading_eq item encodable.1
      have others := readingItems_finite items encodable.2
      rw [readingItems, itemsFinite, rereadItems]
      split at first
      case isFalse infinite =>
        rw [if_neg (by simp [infinite]), first]
        rfl
      case isTrue finite =>
        obtain ⟨read, done, plain⟩ := first
        rw [finite, Bool.true_and, done]
        split at others
        case isFalse infinite =>
          rw [if_neg infinite]
          exact congrArg (Except.map (read :: ·)) others
        case isTrue finite =>
          obtain ⟨rest, areRead, plains⟩ := others
          rw [if_pos finite]
          refine ⟨read :: rest, congrArg (Except.map (read :: ·)) areRead, ?_⟩
          rw [plainItems?, plain, plains]

theorem readingFields_finite : ∀ fields : List (String × Json), fieldsEncodable fields = true →
    if fieldsFinite fields then
      ∃ read, readingFields fields = .ok read ∧ plainFields? read = some (rereadFields fields)
    else readingFields fields = .error .malformed
  | [] => fun _ => ⟨[], rfl, rfl⟩
  | (key, value) :: fields => by
      intro encodable
      rw [fieldsEncodable, Bool.and_eq_true] at encodable
      have first := reading_eq value encodable.1
      have others := readingFields_finite fields encodable.2
      rw [readingFields, fieldsFinite, rereadFields]
      split at first
      case isFalse infinite =>
        rw [if_neg (by simp [infinite]), first]
        rfl
      case isTrue finite =>
        obtain ⟨read, done, plain⟩ := first
        rw [finite, Bool.true_and, done]
        split at others
        case isFalse infinite =>
          rw [if_neg infinite]
          exact congrArg (Except.map ((escapedForm key, read) :: ·)) others
        case isTrue finite =>
          obtain ⟨rest, areRead, plains⟩ := others
          rw [if_pos finite]
          refine ⟨(escapedForm key, read) :: rest,
            congrArg (Except.map ((escapedForm key, read) :: ·)) areRead, ?_⟩
          exact plainFields?_cons.mpr
            ⟨key, _, _, plainText?_escapedForm key, plain, plains, rfl⟩

end

/-- Every value that is printed on lines of its own is one document, if its numbers are finite and
its strings can be encoded. With other numbers it is none. -/
theorem read_render (indent : Option Nat) {value : Json} (encodable : value.encodable = true) :
    read .strict (render indent value ++ "\n") =
      if value.isFinite then .ok (some value.reread) else .error .malformed := by
  have text : (render indent value ++ "\n").toList =
      (renderAt indent 0 value).toList ++ ['\n'] := by
    simp [render]
  have short : (renderAt indent 0 value).length ≤
      ((renderAt indent 0 value).toList ++ ['\n']).length := by
    rw [List.length_append, String.length_toList]
    omega
  have readable := readable_renderAt indent 0 value short
  have result := readable.reads ['\n'] (Text.stops_cons rfl)
  have skipped : skipSeparators ((renderAt indent 0 value).toList ++ ['\n']) =
      (renderAt indent 0 value).toList ++ ['\n'] :=
    Text.dropWhile_of_stops (stops_of_begins readable.begins ['\n'])
  have room : Dialect.strict.limits.reading = none := rfl
  have inForm := reading_eq value encodable
  simp only [Json.read, readEscaped, text, skipped, room, Option.getD_none, result]
  split at inForm
  case isTrue finite =>
    obtain ⟨read, done, plain⟩ := inForm
    rw [if_pos finite, done, ← plain]
    rfl
  case isFalse infinite =>
    rw [if_neg infinite, inForm]
    rfl

end Flowchart.Json
