import Mathlib.Data.Nat.Digits.Defs
import Flowchart.Json.Printer
import Flowchart.Json.Reader
import Flowchart.Proofs.Json.Shown
import Flowchart.Proofs.Keyed
import Flowchart.Proofs.Text.Finding

/-!
Reading within limits.

Whether a document is within the limits can be told by counting: no number in it has more digits
than its text, and nothing in it is nested deeper than the text has opening brackets. What has been
read is nested no deeper than there was room for, and no number in it is too long, so that it can be
shown under the same limits.

The proof follows the reader: one statement for all its parts says what can come out of them, with
an end of the text being left, and it is carried by the room for further brackets.

Main definitions: `Json.Small`, `Json.Reads`. Main statements: `Json.reads_readValue`,
`Json.readEscaped_small`.
-/

namespace Flowchart

theorem exceeds_mono {limit : Option Nat} {count other : Nat} (less : count ≤ other)
    (within : exceeds limit other = false) : exceeds limit count = false := by
  cases limit with
  | none => rfl
  | some most =>
      simp only [exceeds, Option.any_some, decide_eq_false_iff_not, Nat.not_lt] at within ⊢
      omega

namespace Json

open Text (LeavesEnd)

/-! ### Counting -/

/-- The brackets that begin an array or object. -/
def opens (c : Char) : Bool :=
  c == '[' || c == '\x7b'

/-- A text with no more opening brackets than there is room for, and no more digits than a number
may have. -/
structure Small (limits : Limits) (room : Nat) (text : List Char) : Prop where
  brackets : text.countP opens ≤ room
  digits : exceeds limits.digits (text.countP Char.isDigit) = false

/-- The rest of a small text is small. -/
theorem Small.of_suffix {limits : Limits} {room : Nat} {text rest : List Char}
    (small : Small limits room text) (behind : rest <:+ text) : Small limits room rest where
  brackets := Nat.le_trans (behind.sublist.countP_le) small.brackets
  digits := exceeds_mono behind.sublist.countP_le small.digits

/-- Behind a bracket there is one less. -/
theorem Small.tail {limits : Limits} {room : Nat} {c : Char} {text : List Char}
    (small : Small limits (room + 1) (c :: text)) (bracket : opens c = true) :
    Small limits room text where
  brackets := by
    have brackets := small.brackets
    rw [List.countP_cons_of_pos bracket] at brackets
    omega
  digits := exceeds_mono (List.sublist_cons_self c text).countP_le small.digits

/-- What can come out of reading: the text is no document, it is large, or a value is read that
fits, and an end of the text is left. -/
inductive Reads {α : Type} (limits : Limits) (room : Nat) (Holds : α → Prop) (text : List Char) :
    Except ReadError (α × List Char) → Prop where
  | malformed : Reads limits room Holds text (.error .malformed)
  | excess {cause : Excess} (large : ¬Small limits room text) :
      Reads limits room Holds text (.error (.excess cause))
  | read {value : α} {left : List Char} (behind : left <:+ text) (holds : Holds value) :
      Reads limits room Holds text (.ok (value, left))

section Reads

variable {α β : Type} {limits : Limits} {room : Nat} {Holds : α → Prop} {text rest : List Char}
  {result : Except ReadError (α × List Char)}

/-- What comes out of reading an end of a text can come out of reading the text. -/
theorem Reads.of_suffix (reads : Reads limits room Holds rest result) (behind : rest <:+ text) :
    Reads limits room Holds text result := by
  cases reads with
  | malformed => exact .malformed
  | excess large => exact .excess fun small => large (small.of_suffix behind)
  | read left holds => exact .read (left.trans behind) holds

/-- The same behind a bracket. -/
theorem Reads.behind_bracket {c : Char} (reads : Reads limits room Holds rest result)
    (bracket : opens c = true) (behind : rest <:+ text) :
    Reads limits (room + 1) Holds (c :: text) result := by
  cases reads with
  | malformed => exact .malformed
  | excess large => exact .excess fun small => large ((small.tail bracket).of_suffix behind)
  | read left holds => exact .read ((left.trans behind).trans (List.suffix_cons c text)) holds

/-- A value that is changed behind the reader keeps the rest where it was. -/
theorem Reads.map {HoldsAfter : β → Prop} (reads : Reads limits room Holds text result) (f : α → β)
    (kept : ∀ value, Holds value → HoldsAfter (f value)) :
    Reads limits room HoldsAfter text (result.map fun read => (f read.1, read.2)) := by
  cases reads with
  | malformed => exact .malformed
  | excess large => exact .excess large
  | read behind holds => exact .read behind (kept _ holds)

end Reads

/-! ### Parts of values -/

theorem leavesEnd_readCodeUnit : LeavesEnd readCodeUnit := by
  intro text unit left read
  unfold readCodeUnit at read
  split at read
  case h_1 a b c d rest =>
    simp only [Option.bind_eq_bind, Option.bind_eq_some_iff, Option.some.injEq,
      Prod.mk.injEq] at read
    obtain ⟨_, -, _, -, _, -, _, -, -, rfl⟩ := read
    exact ⟨[a, b, c, d], rfl⟩
  case h_2 => cases read

theorem leavesEnd_readCodePoint : LeavesEnd readCodePoint := by
  intro text characters left read
  obtain ⟨⟨first, rest⟩, isFirst, read⟩ := Option.bind_eq_some_iff.mp read
  have behind := leavesEnd_readCodeUnit isFirst
  dsimp only at read
  split at read
  case isTrue =>
    split at read
    case h_1 more =>
      split at read
      case h_1 second after isSecond =>
        have further : after <:+ '\\' :: 'u' :: more :=
          (leavesEnd_readCodeUnit isSecond).trans ⟨['\\', 'u'], rfl⟩
        split at read
        · obtain ⟨-, rfl⟩ := Prod.mk.inj (Option.some.inj read)
          exact further.trans behind
        · obtain ⟨-, rfl⟩ := Prod.mk.inj (Option.some.inj read)
          exact behind
      case h_2 =>
        cases read
        exact behind
    case h_2 =>
      cases read
      exact behind
  case isFalse =>
    split at read
    · cases read
      exact behind
    · cases read
      exact behind

/-- Reading a character of a string takes something. -/
theorem leavesEnd_readCharacter : LeavesEnd readCharacter := by
  intro text characters left read
  unfold readCharacter at read
  split at read
  case h_9 => exact (leavesEnd_readCodePoint read).trans ⟨['\\', 'u'], rfl⟩
  case h_10 =>
    split at read
    · cases read
    · cases read
      exact List.suffix_cons _ _
  case h_11 => cases read
  all_goals
    cases read
    exact ⟨[_, _], rfl⟩

variable {limits : Limits} {room : Nat}

/-- Strings always fit. -/
theorem reads_readString (text : List Char) :
    Reads limits room (fun _ => True) text (readString text) := by
  have behind := Text.many_isSuffix leavesEnd_readCharacter text
  unfold readString
  split
  case h_1 characters rest read =>
    rw [read] at behind
    exact .read ((List.suffix_cons '"' rest).trans behind) trivial
  case h_2 => exact .malformed

theorem readFraction_isSuffix (text : List Char) : (readFraction text).2 <:+ text := by
  unfold readFraction
  split
  case h_1 rest =>
    split
    case h_1 digits left read => exact (Text.run1_isSuffix read).trans (List.suffix_cons '.' rest)
    case h_2 => exact List.suffix_refl _
  case h_2 => exact List.suffix_refl _

theorem readExponent_isSuffix (text : List Char) : (readExponent text).2 <:+ text := by
  unfold readExponent
  split
  case h_1 mark rest =>
    split
    case isTrue =>
      dsimp only
      split
      case h_1 digits left read =>
        -- A sign in front of the digits belongs to what is passed.
        refine ((Text.run1_isSuffix read).trans ?_).trans (List.suffix_cons mark rest)
        split
        · exact List.suffix_cons _ _
        · exact List.suffix_cons _ _
        · exact List.suffix_refl _
      case h_2 => exact List.suffix_refl _
    case isFalse => exact List.suffix_refl _
  case h_2 => exact List.suffix_refl _

/-- The digits before the point are the front of the text. -/
theorem readWhole_split {text whole rest : List Char} (read : readWhole text = some (whole, rest)) :
    text = whole ++ rest ∧ whole ≠ [] ∧ ∀ c ∈ whole, c.isDigit = true := by
  unfold readWhole at read
  split at read
  case h_1 =>
    cases read
    exact ⟨rfl, by simp, by simp [Char.isDigit]⟩
  case h_2 =>
    obtain ⟨some, runs⟩ := Text.run1_eq_some.mp read
    obtain ⟨isWhole, isRest⟩ := Prod.mk.inj runs
    rw [← isWhole, ← isRest]
    exact ⟨List.takeWhile_append_dropWhile.symm, isWhole ▸ some, fun c => List.mem_takeWhile_imp⟩

/-! ### Numbers -/

/-- Digits behind a number make one below the next number with as many zeros behind it. -/
theorem foldl_digits_lt {digits : List Nat} (small : ∀ digit ∈ digits, digit < 10) (n : Nat) :
    digits.foldl (fun n digit => 10 * n + digit) n < (n + 1) * 10 ^ digits.length := by
  induction digits generalizing n with
  | nil => simp
  | cons digit digits ih =>
      rw [List.forall_mem_cons] at small
      have others := ih small.2 (10 * n + digit)
      have first : 10 * n + digit + 1 ≤ 10 * (n + 1) := by omega
      rw [List.foldl_cons, List.length_cons, Nat.pow_succ']
      calc _ < (10 * n + digit + 1) * 10 ^ digits.length := others
        _ ≤ 10 * (n + 1) * 10 ^ digits.length := Nat.mul_le_mul_right _ first
        _ = (n + 1) * (10 * 10 ^ digits.length) := by ring

/-- A number has no more digits than it is written with. -/
theorem length_natDigits_le {digits : List Char} (some : digits ≠ [])
    (decimal : ∀ c ∈ digits, c.isDigit = true) :
    (Decimal.natDigits (digitsValue digits)).length ≤ digits.length := by
  have small : ∀ digit ∈ digits.map fun c => c.toNat - '0'.toNat, digit < 10 := by
    rw [List.forall_mem_map]
    intro c member
    have bounds := decimal c member
    simp only [Char.isDigit, Bool.and_eq_true, decide_eq_true_eq] at bounds
    have high : c.toNat ≤ 57 := bounds.2
    have zero : '0'.toNat = 48 := rfl
    omega
  have bound := foldl_digits_lt small 0
  rw [List.length_map] at bound
  refine Nat.toDigits_length 10 _ _ (List.length_pos_iff.mpr some) ?_
  simpa [digitsValue, Decimal.ofDigits] using bound

/-- A value that can be shown where there is room for so many brackets. -/
def Shown (limits : Limits) (room : Nat) (value : Json) : Prop :=
  value.excess? limits .shown (some room) = none

/-- A number without a sign that is read from a small text can be shown within the limits. -/
theorem reads_readUnsigned (negative : Bool) (text : List Char) :
    Reads limits room (Shown limits room) text (readUnsigned limits negative text) := by
  unfold readUnsigned
  split
  case h_1 => exact .malformed
  case h_2 whole rest isWhole =>
    obtain ⟨split, some, digits⟩ := readWhole_split isWhole
    have behind : rest <:+ text := ⟨whole, split.symm⟩
    have left := ((readExponent_isSuffix _).trans (readFraction_isSuffix rest)).trans behind
    dsimp only
    split
    case h_1 =>
      split
      case h_1 cause beyond =>
        refine .excess fun small => ?_
        have counted : whole.length ≤ text.countP Char.isDigit := by
          rw [split, List.countP_append, List.countP_eq_length.mpr digits]
          exact Nat.le_add_right _ _
        rw [Limits.digitExcess?_eq_none.mpr (exceeds_mono counted small.digits)] at beyond
        cases beyond
      case h_2 within =>
        refine .read left ?_
        have bound := exceeds_mono (length_natDigits_le some digits)
          (Limits.digitExcess?_eq_none.mp within)
        rw [Shown, excess?, Limits.digitExcess?_eq_none]
        cases negative <;> simpa using bound
    case h_2 => exact .read left rfl

/-- A scalar that is read can be shown, and what is left is the end of the text. -/
theorem reads_readScalar (dialect : Dialect) (text : List Char) :
    Reads dialect.limits room (Shown dialect.limits room) text (readScalar dialect text) := by
  unfold readScalar
  split
  case h_1 rest =>
    split
    case h_1 left read =>
      have isLeft : left <:+ rest := by
        split at read
        · exact Text.afterLiteral_isSuffix read
        · cases read
      exact .read (isLeft.trans (List.suffix_cons _ _)) rfl
    case h_2 => exact (reads_readUnsigned true rest).of_suffix (List.suffix_cons _ _)
  case h_2 c rest _ =>
    split
    case isTrue => exact reads_readUnsigned false (c :: rest)
    case isFalse =>
      split
      case h_1 result found =>
        obtain ⟨word, listed, read⟩ := List.exists_of_findSome?_eq_some found
        obtain ⟨left, after, rfl⟩ := Option.map_eq_some_iff.mp read
        refine .read (Text.afterLiteral_isSuffix after) ?_
        have scalars : ∀ word ∈ words dialect, Shown dialect.limits room word.2 := by
          unfold words
          rw [List.forall_mem_append]
          refine ⟨by simp [Shown, excess?], ?_⟩
          split <;> simp [Shown, excess?]
        exact scalars word listed
      case h_2 => exact .malformed
  case h_3 => exact .malformed

/-! ### Arrays and objects -/

/-- Items are within the limits if each of them is. -/
theorem itemsExcess?_eq_none {kind : Nesting} {room : Option Nat} {items : List Json} :
    itemsExcess? limits kind room items = none ↔
      ∀ item ∈ items, item.excess? limits kind room = none := by
  induction items with
  | nil => simp [itemsExcess?]
  | cons item items ih => simp [itemsExcess?, ih]

/-- Fields are within the limits if each of their values is. -/
theorem fieldsExcess?_eq_none {kind : Nesting} {room : Option Nat}
    {fields : List (String × Json)} :
    fieldsExcess? limits kind room fields = none ↔
      ∀ field ∈ fields, field.2.excess? limits kind room = none := by
  induction fields with
  | nil => simp [fieldsExcess?]
  | cons field fields ih => simp [fieldsExcess?, ih]

/-- An array can be shown with one more level than its items. -/
theorem shown_arr {items : List Json} (shown : ∀ item ∈ items, Shown limits room item) :
    Shown limits (room + 1) (arr items) := by
  rw [Shown, excess?, if_neg (by simp)]
  exact itemsExcess?_eq_none.mpr shown

/-- An object can be shown with one more level than its values. Among fields of one name the last
one counts. -/
theorem shown_obj {fields : List (String × Json)}
    (shown : ∀ field ∈ fields, Shown limits room field.2) :
    Shown limits (room + 1) (obj (Keyed.ofPairs fields)) := by
  rw [Shown, excess?, if_neg (by simp)]
  exact fieldsExcess?_eq_none.mpr fun field member =>
    shown field (Keyed.mem_of_mem_ofPairs member)

theorem skipSeparators_isSuffix (text : List Char) : skipSeparators text <:+ text :=
  List.dropWhile_suffix isSeparator

/-- Behind a mark among separators an end of the text is left. -/
theorem isSuffix_behind_mark {mark : Char} {text rest left : List Char}
    (found : skipSeparators rest = mark :: left) (behind : rest <:+ text) : left <:+ text :=
  ((found ▸ List.suffix_cons mark left : left <:+ skipSeparators rest).trans
    (skipSeparators_isSuffix rest)).trans behind

section Parts

variable {dialect : Dialect}
  (values : ∀ text, Reads dialect.limits room (Shown dialect.limits room) text
    (readValue dialect room text))

include values

/-- Where values are read from small texts, so are items. -/
theorem reads_readItems (count : Nat) (text : List Char) :
    Reads dialect.limits room (fun items => ∀ item ∈ items, Shown dialect.limits room item) text
      (readItems dialect room count text) := by
  induction count generalizing text with
  | zero =>
      rw [readItems]
      exact .malformed
  | succ count ih =>
      rw [readItems]
      have first := values text
      generalize readValue dialect room text = result at first
      cases first with
      | malformed => exact .malformed
      | excess large => exact .excess large
      | @read item rest behind shown =>
          dsimp only
          split
          case h_1 left closed =>
            exact .read (isSuffix_behind_mark closed behind) (by simpa using shown)
          case h_2 more comma =>
            have further : skipSeparators more <:+ text :=
              (skipSeparators_isSuffix more).trans (isSuffix_behind_mark comma behind)
            exact ((ih (skipSeparators more)).of_suffix further).map (item :: ·)
              fun items others => List.forall_mem_cons.mpr ⟨shown, others⟩
          case h_3 => exact .malformed

theorem reads_readFields (count : Nat) (text : List Char) :
    Reads dialect.limits room (fun fields => ∀ field ∈ fields, Shown dialect.limits room field.2)
      text (readFields dialect room count text) := by
  induction count generalizing text with
  | zero =>
      rw [readFields.eq_def]
      exact .malformed
  | succ count ih =>
      rw [readFields.eq_def]
      split
      case h_2 => exact .malformed
      case h_1 rest counted =>
        cases counted
        have key : Reads dialect.limits room (fun _ => True) rest (readString rest) :=
          reads_readString rest
        generalize readString rest = result at key
        cases key with
        | malformed => exact .malformed
        | excess large =>
            exact .excess fun small => large (small.of_suffix (List.suffix_cons '"' rest))
        | @read name afterKey behindKey _ =>
            have behindKey := behindKey.trans (List.suffix_cons '"' rest)
            dsimp only
            split
            case h_2 => exact .malformed
            case h_1 more colon =>
              have behindColon : skipSeparators more <:+ '"' :: rest :=
                (skipSeparators_isSuffix more).trans (isSuffix_behind_mark colon behindKey)
              have value := (values (skipSeparators more)).of_suffix behindColon
              generalize readValue dialect room (skipSeparators more) = result at value
              cases value with
              | malformed => exact .malformed
              | excess large => exact .excess large
              | @read value afterValue behindValue shown =>
                  dsimp only
                  split
                  case h_1 left closed =>
                    exact .read (isSuffix_behind_mark closed behindValue) (by simpa using shown)
                  case h_2 others comma =>
                    have further : skipSeparators others <:+ '"' :: rest :=
                      (skipSeparators_isSuffix others).trans
                        (isSuffix_behind_mark comma behindValue)
                    exact ((ih (skipSeparators others)).of_suffix further).map ((name, value) :: ·)
                      fun fields others => List.forall_mem_cons.mpr ⟨shown, others⟩
                  case h_3 => exact .malformed

end Parts

/-! ### Documents -/

/-- A text with a bracket at its front needs room for it. -/
theorem not_small_zero {c : Char} {text : List Char} (bracket : opens c = true) :
    ¬Small limits 0 (c :: text) := by
  intro small
  have brackets := small.brackets
  rw [List.countP_cons_of_pos bracket] at brackets
  omega

/-- What can come out of reading a value: it is nested no deeper than there was room for. -/
theorem reads_readValue (dialect : Dialect) (room : Nat) (text : List Char) :
    Reads dialect.limits room (Shown dialect.limits room) text (readValue dialect room text) := by
  induction room generalizing text with
  | zero =>
      rw [readValue.eq_def]
      split
      case h_1 rest =>
        exact ((reads_readString rest).of_suffix (List.suffix_cons '"' rest)).map str
          fun _ _ => rfl
      case h_2 => exact .excess (not_small_zero (by decide))
      case h_3 => exact .excess (not_small_zero (by decide))
      case h_4 => exact reads_readScalar dialect text
  | succ room ih =>
      rw [readValue.eq_def]
      split
      case h_1 rest =>
        exact ((reads_readString rest).of_suffix (List.suffix_cons '"' rest)).map str
          fun _ _ => rfl
      case h_2 rest =>
        dsimp only
        split
        case h_1 left closed =>
          exact .read (isSuffix_behind_mark closed (List.suffix_cons '[' rest)) rfl
        case h_2 =>
          exact ((reads_readItems ih _ _).behind_bracket (by decide)
            (skipSeparators_isSuffix rest)).map arr fun _ => shown_arr
      case h_3 rest =>
        dsimp only
        split
        case h_1 left closed =>
          exact .read (isSuffix_behind_mark closed (List.suffix_cons '\x7b' rest)) rfl
        case h_2 =>
          exact ((reads_readFields ih _ _).behind_bracket (by decide)
            (skipSeparators_isSuffix rest)).map (fun fields => obj (Keyed.ofPairs fields))
              fun _ => shown_obj
      case h_4 => exact reads_readScalar dialect text

/-- The room that a text is read with. -/
def Dialect.roomFor (dialect : Dialect) (text : String) : Nat :=
  dialect.limits.reading.getD (skipSeparators text.toList).length

/-- Without a limit there is room for every bracket. -/
theorem countP_opens_le (text : List Char) : text.countP opens ≤ (skipSeparators text).length := by
  have blank : ∀ c, isSeparator c = true → opens c = false := by
    intro c separator
    have separators : c = ' ' ∨ c = '\t' ∨ c = '\n' ∨ c = '\r' := by
      simpa [isSeparator, or_assoc] using separator
    rcases separators with rfl | rfl | rfl | rfl <;> rfl
  have front : (text.takeWhile isSeparator).countP opens = 0 :=
    List.countP_eq_zero.mpr fun c member => by simp [blank c (List.mem_takeWhile_imp member)]
  calc text.countP opens
      = (text.takeWhile isSeparator ++ skipSeparators text).countP opens := by
        rw [skipSeparators, List.takeWhile_append_dropWhile]
    _ ≤ (skipSeparators text).length := by
        rw [List.countP_append, front, Nat.zero_add]
        exact List.countP_le_length

/-- A text that is small enough is read or malformed. -/
theorem readEscaped_small {dialect : Dialect} {text : String}
    (small : Small dialect.limits (dialect.roomFor text) text.toList) (cause : Excess) :
    readEscaped dialect text ≠ .error (.excess cause) := by
  have reads := reads_readValue dialect (dialect.roomFor text) (skipSeparators text.toList)
  have whole := small.of_suffix (skipSeparators_isSuffix text.toList)
  simp only [readEscaped]
  rw [Dialect.roomFor] at reads whole
  generalize readValue dialect _ _ = result at reads ⊢
  cases reads with
  | malformed => simp
  | excess large => exact absurd whole large
  | read =>
      dsimp only
      split <;> simp

/-- A document that has been read is nested no deeper than there was room for, and no number in it
is too long. -/
theorem shown_of_readEscaped {dialect : Dialect} {text : String} {value : Json}
    (read : readEscaped dialect text = .ok value) :
    Shown dialect.limits (dialect.roomFor text) value := by
  have reads := reads_readValue dialect (dialect.roomFor text) (skipSeparators text.toList)
  simp only [readEscaped] at read
  rw [Dialect.roomFor] at reads ⊢
  generalize readValue dialect _ _ = result at reads read
  cases reads with
  | malformed => cases read
  | excess => cases read
  | read _ shown =>
      dsimp only at read
      split at read
      · cases read
        exact shown
      · cases read

/-! ### Room -/

/-- There is as much room as a number says, or more. -/
def Spacious (count : Nat) (room : Option Nat) : Prop :=
  ∀ most ∈ room, count ≤ most

/-- One level further in, there is room for one level less. -/
theorem Spacious.pred {count : Nat} {room : Option Nat} (spacious : Spacious (count + 1) room) :
    room ≠ some 0 ∧ Spacious count (room.map (· - 1)) := by
  cases room with
  | none => simp [Spacious]
  | some most =>
      have more : count + 1 ≤ most := spacious most rfl
      refine ⟨by simp; omega, ?_⟩
      rintro _ ⟨⟩
      exact Nat.le_sub_one_of_lt more

mutual

/-- What is within the limits stays so where there is more room. -/
theorem excess?_of_spacious {kind : Nesting} {count : Nat} {room : Option Nat}
    (spacious : Spacious count room) : ∀ {value : Json},
      value.excess? limits kind (some count) = none → value.excess? limits kind room = none
  | null | bool _ | float _ | str _ => fun _ => rfl
  | int _ => id
  | arr items => by
      intro within
      cases count with
      | zero => cases within
      | succ count =>
          obtain ⟨space, inner⟩ := spacious.pred
          rw [excess?, if_neg space]
          exact itemsExcess?_of_spacious inner within
  | obj fields | escaped fields => by
      intro within
      cases count with
      | zero => cases within
      | succ count =>
          obtain ⟨space, inner⟩ := spacious.pred
          rw [excess?, if_neg space]
          exact fieldsExcess?_of_spacious inner within

/-- Items within a count of levels are within every room that has space for them. -/
theorem itemsExcess?_of_spacious {kind : Nesting} {count : Nat} {room : Option Nat}
    (spacious : Spacious count room) : ∀ {items : List Json},
      itemsExcess? limits kind (some count) items = none →
        itemsExcess? limits kind room items = none
  | [] => fun _ => rfl
  | item :: items => by
      rw [itemsExcess?, itemsExcess?, Option.or_eq_none_iff, Option.or_eq_none_iff]
      exact fun within =>
        ⟨excess?_of_spacious spacious within.1, itemsExcess?_of_spacious spacious within.2⟩

theorem fieldsExcess?_of_spacious {kind : Nesting} {count : Nat} {room : Option Nat}
    (spacious : Spacious count room) : ∀ {fields : List (String × Json)},
      fieldsExcess? limits kind (some count) fields = none →
        fieldsExcess? limits kind room fields = none
  | [] => fun _ => rfl
  | (_, value) :: fields => by
      rw [fieldsExcess?, fieldsExcess?, Option.or_eq_none_iff, Option.or_eq_none_iff]
      exact fun within =>
        ⟨excess?_of_spacious spacious within.1, fieldsExcess?_of_spacious spacious within.2⟩

end

mutual

/-- The strings in a value make no difference to the limits. -/
theorem excess?_plain? {kind : Nesting} : ∀ {value plain : Json} {room : Option Nat},
    value.plain? = some plain → plain.excess? limits kind room = value.excess? limits kind room
  | null, _, _, same | bool _, _, _, same | int _, _, _, same | float _, _, _, same => by
      cases same
      rfl
  | str text, _, _, same => by
      obtain ⟨_, -, rfl⟩ := Option.map_eq_some_iff.mp same
      rfl
  | arr items, _, room, same => by
      obtain ⟨plains, areItems, rfl⟩ := Option.map_eq_some_iff.mp same
      rw [excess?, excess?, itemsExcess?_plainItems? areItems]
  | obj fields, _, room, same => by
      obtain ⟨plains, areFields, rfl⟩ := Option.map_eq_some_iff.mp same
      rw [excess?, excess?, fieldsExcess?_plainFields? areFields]
  | escaped _, _, _, same => by cases same

/-- Undoing the escaped form of items keeps their levels and numbers. -/
theorem itemsExcess?_plainItems? {kind : Nesting} : ∀ {items plains : List Json}
    {room : Option Nat}, plainItems? items = some plains →
      itemsExcess? limits kind room plains = itemsExcess? limits kind room items
  | [], _, _, same => by
      cases same
      rfl
  | item :: items, _, _, same => by
      rw [plainItems?] at same
      split at same
      case h_1 plain others isItem areItems =>
        cases same
        rw [itemsExcess?, itemsExcess?, excess?_plain? isItem, itemsExcess?_plainItems? areItems]
      case h_2 => cases same

theorem fieldsExcess?_plainFields? {kind : Nesting} : ∀ {fields plains : List (String × Json)}
    {room : Option Nat}, plainFields? fields = some plains →
      fieldsExcess? limits kind room plains = fieldsExcess? limits kind room fields
  | [], _, _, same => by
      cases same
      rfl
  | (key, value) :: fields, _, _, same => by
      rw [plainFields?] at same
      split at same
      case h_1 name plain others _ isValue areFields =>
        cases same
        rw [fieldsExcess?, fieldsExcess?, excess?_plain? isValue,
          fieldsExcess?_plainFields? areFields]
      case h_2 => cases same

end

/-- A field of a value that can be shown can be shown as well. -/
theorem Shown.field {value : Json} (shown : Shown limits room value) (key : String) :
    Shown limits room (value.field key) := by
  unfold Json.field Json.field?
  split
  case h_1 fields =>
    cases found : Keyed.find? key fields with
    | none => rfl
    | some field =>
        cases room with
        | zero => cases shown
        | succ room =>
            have inner : fieldsExcess? limits .shown (some room) fields = none := shown
            have within := fieldsExcess?_eq_none.mp inner (key, field) (Keyed.mem_of_find? found)
            refine excess?_of_spacious ?_ within
            rintro _ ⟨⟩
            exact Nat.le_succ room
  case h_2 => rfl

/-- A value that can be shown where there is less room than for values in running text. -/
theorem Shown.shown {value : Json} (shown : Shown limits room value)
    (spacious : Spacious room limits.showing) (quote : String → String) :
    value.shown limits quote = .ok (value.displayWith quote) := by
  rw [Json.shown, excess?_of_spacious spacious shown]

end Json

end Flowchart
