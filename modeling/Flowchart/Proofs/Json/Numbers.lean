import Mathlib.Data.Nat.Log
import Flowchart.Json.Reader
import Flowchart.Json.Printer
import Flowchart.Proofs.Json.Shown
import Flowchart.Proofs.Text.Front

/-!
Numbers of documents.

A number is spelled by its whole digits, perhaps a fraction and perhaps an exponent, and every
number that is written is spelled in this way. So it is read again, and no further than it goes: a
whole number as itself, and a double as the one that its text spells. A double that is not finite is
written as a word that the strict dialect does not have.

Main definition: `Json.reparsed`. Main statements: `Json.readScalar_int`, `Json.readScalar_float`.
-/

namespace Flowchart

open Text (Stops)

/-! ### Digits -/

namespace Decimal

/-- Decimal digits, at least one. -/
structure Digits (text : List Char) : Prop where
  nonempty : text ≠ []
  decimal : ∀ c ∈ text, c.isDigit = true

/-- The digits before the point: a zero alone, or digits that do not start with one. -/
def IsWhole (text : List Char) : Prop :=
  text = ['0'] ∨ Digits text ∧ text.head? ≠ some '0'

/-- A point with digits after it, or nothing. -/
def IsFraction (text : List Char) : Prop :=
  text = [] ∨ ∃ digits, text = '.' :: digits ∧ Digits digits

/-- An exponent with its sign, or nothing. -/
def IsExponent (text : List Char) : Prop :=
  text = [] ∨ ∃ sign digits, text = 'e' :: sign :: digits ∧ sign ∈ ['+', '-'] ∧ Digits digits

/-- A number without its sign that is not a whole one. -/
def IsReal (text : List Char) : Prop :=
  ∃ whole fraction exponent, text = whole ++ (fraction ++ exponent) ∧
    IsWhole whole ∧ IsFraction fraction ∧ IsExponent exponent ∧ (fraction = [] → exponent ≠ [])

theorem Digits.cons {c : Char} {text : List Char} (digit : c.isDigit = true)
    (digits : ∀ c ∈ text, c.isDigit = true) : Digits (c :: text) :=
  ⟨List.cons_ne_nil _ _, List.forall_mem_cons.mpr ⟨digit, digits⟩⟩

theorem Digits.append_right {front text : List Char} (digits : Digits text)
    (before : ∀ c ∈ front, c.isDigit = true) : Digits (front ++ text) :=
  ⟨List.append_ne_nil_of_right_ne_nil _ digits.nonempty,
    List.forall_mem_append.mpr ⟨before, digits.decimal⟩⟩

theorem IsWhole.digits {text : List Char} (whole : IsWhole text) : Digits text := by
  rcases whole with rfl | ⟨digits, -⟩
  · exact Digits.cons (by decide) (by simp)
  · exact digits

theorem isDigit_of_mem_zeros {count : Nat} :
    ∀ c ∈ List.replicate count '0', c.isDigit = true := by
  intro c member
  rw [List.eq_of_mem_replicate member]
  rfl

/-- The digits of a natural number are digits. -/
theorem digits_natDigits (n : Nat) : Digits (natDigits n) :=
  ⟨natDigits_ne_nil n, fun _ => Nat.isDigit_of_mem_toDigits (by decide) (by decide)⟩

/-- A number other than zero does not start with a zero. -/
theorem head?_natDigits {n : Nat} (positive : n ≠ 0) : (natDigits n).head? ≠ some '0' := by
  induction n using Nat.strongRecOn with
  | ind n ih =>
      rw [natDigits, Nat.toDigits_eq_if (by decide)]
      split
      case isTrue small =>
        have nonzero : ∀ n < 10, n ≠ 0 → n.digitChar ≠ '0' := by decide
        simpa using nonzero n small positive
      case isFalse large =>
        have front := ih (n / 10) (by omega) (by omega)
        rw [List.head?_append, Option.or_of_isSome (by simp [Nat.toDigits_ne_nil])]
        exact front

/-- Natural numbers are written as whole numbers, without a zero in front. -/
theorem isWhole_natDigits (n : Nat) : IsWhole (natDigits n) := by
  by_cases zero : n = 0
  · exact .inl (by rw [zero]; rfl)
  · exact .inr ⟨digits_natDigits n, head?_natDigits zero⟩

/-! ### Doubles -/

theorem Target.pos_of_onGrid? {t : Target} {exponent : Int} {digits : Nat}
    (found : t.onGrid? exponent = some digits) : digits ≠ 0 := by
  rw [Target.onGrid?] at found
  simp only [Bool.and_eq_true, decide_eq_true_eq] at found
  split_ifs at found with both nearer lower upper <;> cases found
  · exact both.1.1.ne'
  · exact Nat.succ_ne_zero _
  · exact lower.1.ne'
  · exact Nat.succ_ne_zero _

/-- A search ends with digits, or on its finest grid with the whole part. -/
theorem Target.search_cases (t : Target) (steps : Nat) (exponent : Int) :
    (t.search steps exponent).digits ≠ 0 ∨
      t.search steps exponent = ⟨t.value / t.denominator, exponent - steps⟩ := by
  induction steps generalizing exponent with
  | zero => exact .inr (by simp [Target.search])
  | succ steps ih =>
      rw [Target.search]
      cases found : t.onGrid? exponent with
      | some digits => exact .inl (Target.pos_of_onGrid? found)
      | none =>
          rcases ih (exponent - 1) with digits | finest
          · exact .inl digits
          · refine .inr (finest.trans ?_)
            congr 1
            omega

/-- A number below one has a negative logarithm. -/
theorem log2_neg_of_whole {b : Binary} (positive : b.mantissa ≠ 0)
    (below : (Target.ofBinary b).value / (Target.ofBinary b).denominator = 0) :
    (b.mantissa.log2 + b.exponent : Int) < 0 := by
  have small : 4 * b.mantissa * 2 ^ (b.exponent - 2).toNat < 2 ^ (2 - b.exponent).toNat :=
    (Nat.div_eq_zero_iff_lt (Nat.two_pow_pos _)).mp below
  have unscaled : 4 * b.mantissa < 2 ^ (2 - b.exponent).toNat :=
    Nat.lt_of_le_of_lt (Nat.le_mul_of_pos_right _ (Nat.two_pow_pos _)) small
  have logarithm : (4 * b.mantissa).log2 < (2 - b.exponent).toNat :=
    (Nat.log2_lt (by omega)).mpr unscaled
  rw [show 4 * b.mantissa = 2 * (2 * b.mantissa) by omega, Nat.log2_two_mul (by omega),
    Nat.log2_two_mul positive] at logarithm
  omega

/-- A double that is not zero is written with digits other than zero, or with an exponent that is
not positive. -/
theorem shortest_cases {b : Binary} (positive : b.mantissa ≠ 0) :
    (shortest b).digits ≠ 0 ∨ (shortest b).exponent ≤ 0 := by
  rw [shortest]
  generalize start : Int.fdiv ((b.mantissa.log2 + b.exponent) * 30103) 100000 + 2 = first
  rcases Target.search_cases (Target.ofBinary b) 24 first with digits | finest
  · exact .inl digits
  · rw [finest]
    refine (Nat.eq_zero_or_pos _).symm.imp (fun positive => positive.ne') fun zero => ?_
    have below := log2_neg_of_whole positive zero
    rw [Int.fdiv_eq_ediv_of_nonneg _ (by omega)] at start
    dsimp only
    omega

/-- The digits in front of the point, filled up with zeros. -/
theorem isWhole_filled {digits : List Char} (whole : IsWhole digits) {count : Nat}
    (shown : count ≠ 0) (placed : digits = ['0'] → count = 1) (zeros : Nat)
    (filled : zeros = count - (digits.take count).length) :
    IsWhole (digits.take count ++ List.replicate zeros '0') := by
  rcases whole with rfl | ⟨decimal, nonzero⟩
  · rw [filled, placed rfl]
    exact .inl rfl
  · obtain ⟨count, rfl⟩ := Nat.exists_eq_succ_of_ne_zero shown
    cases digits with
    | nil => exact absurd rfl decimal.nonempty
    | cons c digits =>
        obtain ⟨first, others⟩ := List.forall_mem_cons.mp decimal.decimal
        refine .inr ⟨Digits.cons first (List.forall_mem_append.mpr ⟨?_, isDigit_of_mem_zeros⟩), ?_⟩
        · exact fun d member => others d (List.mem_of_mem_take member)
        · exact nonzero

/-- Digits with a point are a number, wherever the point stands, as long as no zeros are written
behind a zero. -/
theorem isReal_positional {digits : List Char} (whole : IsWhole digits) {place : Int}
    (placed : digits = ['0'] → place ≤ 1) : IsReal (positional digits place) := by
  rw [positional]
  split
  case isTrue =>
    have behind : Digits (List.replicate (-place).toNat '0' ++ digits) :=
      whole.digits.append_right isDigit_of_mem_zeros
    exact ⟨['0'], _, [], by simp, .inl rfl, .inr ⟨_, rfl, behind⟩, .inl rfl, nofun⟩
  case isFalse shown =>
    have within : digits = ['0'] → place.toNat = 1 := fun zero => by have := placed zero; omega
    have front := isWhole_filled whole (by omega) within _ rfl
    refine ⟨_, _, [], by rw [List.append_nil], front, .inr ⟨_, rfl, ?_⟩, .inl rfl, nofun⟩
    split
    case isTrue => exact Digits.cons (by decide) (by simp)
    case isFalse given =>
      exact ⟨fun empty => given (List.isEmpty_iff.mpr empty),
        fun c member => whole.digits.decimal c (List.mem_of_mem_drop member)⟩

/-- Exponents are written with a sign and at least two digits. -/
theorem isExponent_exponentText (exponent : Int) : IsExponent (exponentText exponent) := by
  have power := digits_natDigits exponent.natAbs
  refine .inr ⟨_, _, rfl, ?_, ?_⟩
  · split <;> simp
  · split
    · exact Digits.cons (by decide) power.decimal
    · exact power

/-- Digits with an exponent make a real number. -/
theorem isReal_withExponent {digits : List Char} (whole : IsWhole digits) (exponent : Int) :
    IsReal (withExponent digits exponent) := by
  have power := isExponent_exponentText exponent
  match digits, whole with
  | [], whole => exact absurd rfl whole.digits.nonempty
  | [_], whole => exact ⟨_, [], _, rfl, whole, .inl rfl, power, fun _ => nofun⟩
  | first :: second :: rest, whole =>
      obtain ⟨decimal, others⟩ := List.forall_mem_cons.mp whole.digits.decimal
      have front : IsWhole [first] := by
        rcases whole with single | ⟨-, nonzero⟩
        · cases single
        · exact .inr ⟨Digits.cons decimal (by simp), nonzero⟩
      have behind : Digits (second :: rest) := ⟨List.cons_ne_nil _ _, others⟩
      exact ⟨[first], _, _, rfl, front, .inr ⟨_, rfl, behind⟩, power, nofun⟩

/-- Digits and an exponent are a number in either way of writing them. -/
theorem isReal_scientific {decimal : Scientific}
    (shown : decimal.digits ≠ 0 ∨ decimal.exponent ≤ 0) (positionally : Prop)
    [Decidable positionally] :
    let digits := natDigits decimal.digits
    let magnitude := decimal.exponent + digits.length - 1
    IsReal (if positionally then positional digits (magnitude + 1)
      else withExponent digits magnitude) := by
  dsimp only
  have whole := isWhole_natDigits decimal.digits
  split
  case isFalse => exact isReal_withExponent whole _
  case isTrue =>
    refine isReal_positional whole fun zero => ?_
    rcases shown with nonzero | small
    · exact absurd (by rw [zero]; rfl) (head?_natDigits nonzero)
    · simp only [zero, List.length_singleton]
      omega

/-- A text with a minus sign in front of it, or without one. -/
def signed (negative : Bool) (text : List Char) : List Char :=
  if negative then '-' :: text else text

theorem toList_sign (negative : Bool) (text : String) :
    ((if negative then "-" else "") ++ text).toList = signed negative text.toList := by
  cases negative <;> simp [signed]

theorem signed_append (negative : Bool) (text rest : List Char) :
    signed negative text ++ rest = signed negative (text ++ rest) := by
  cases negative <;> rfl

theorem toList_intText (n : Int) :
    (intText n).toList = signed (n < 0) (natDigits n.natAbs) := by
  rw [intText, natText]
  by_cases negative : n < 0 <;> simp [negative, signed]

/-- A double is written as a number with its sign, if it is finite. -/
theorem floatText_finite (style : Style) {x : Float} (isNumber : x.isNaN = false)
    (bounded : x.isInf = false) :
    ∃ negative number, (floatText style x).toList = signed negative number ∧ IsReal number := by
  rw [floatText, isNumber, bounded]
  generalize Binary.ofFloat x = binary
  simp only [Bool.false_eq_true, if_false]
  split
  case isTrue =>
    rw [toList_sign]
    exact ⟨_, _, rfl, ['0'], ['.', '0'], [], rfl, .inl rfl,
      .inr ⟨['0'], rfl, Digits.cons (by decide) (by simp)⟩, .inl rfl, nofun⟩
  case isFalse positive =>
    rw [toList_sign, String.toList_ofList]
    exact ⟨_, _, rfl, isReal_scientific (shortest_cases positive) _⟩

/-- A double that is not finite is written as a word. -/
theorem floatText_notFinite (style : Style) {x : Float} (unbounded : (x.isNaN || x.isInf) = true) :
    floatText style x = style.notANumber ∨ floatText style x = style.infinity ∨
      floatText style x = "-" ++ style.infinity := by
  rw [floatText]
  cases isNumber : x.isNaN with
  | true => exact .inl rfl
  | false =>
      rw [isNumber, Bool.false_or] at unbounded
      simp only [unbounded, Bool.false_eq_true, if_false, if_true]
      cases (Binary.ofFloat x).negative <;> simp

end Decimal

/-! ### Reading -/

namespace Json

open Decimal (Digits IsWhole IsFraction IsExponent IsReal signed)

/-- The characters with which a number may go on. -/
def isNumeral (c : Char) : Bool :=
  c.isDigit || c == '.' || c == 'e' || c == 'E'

theorem isNumeral_eq_false {c : Char} :
    isNumeral c = false ↔ c.isDigit = false ∧ c ≠ '.' ∧ c ≠ 'e' ∧ c ≠ 'E' := by
  simp [isNumeral, and_assoc]

section Numerals

variable {text rest : List Char}

theorem stops_isDigit (stops : Stops isNumeral rest) : Stops Char.isDigit rest :=
  fun c first => (isNumeral_eq_false.mp (stops c first)).1

theorem stops_point (stops : Stops isNumeral rest) : Stops (· == '.') rest :=
  fun c first => by simpa using (isNumeral_eq_false.mp (stops c first)).2.1

/-- A whole number is read up to where the digits end. -/
theorem readWhole_append (whole : IsWhole text) (stops : Stops Char.isDigit rest) :
    readWhole (text ++ rest) = some (text, rest) := by
  rcases whole with rfl | ⟨digits, nonzero⟩
  · rfl
  · have read := Text.run1_append digits.nonempty digits.decimal stops
    cases text with
    | nil => exact absurd rfl digits.nonempty
    | cons c text =>
        have other : c ≠ '0' := by simpa using nonzero
        simpa [readWhole, other] using read

theorem readFraction_stops (point : Stops (· == '.') rest) : readFraction rest = (none, rest) := by
  cases rest with
  | nil => rfl
  | cons c rest =>
      have other : c ≠ '.' := by simpa using point c rfl
      simp [readFraction, other]

/-- A fraction is read up to its end, and told from none. -/
theorem readFraction_append (fraction : IsFraction text) :
    ∃ decimals : Option (List Char), (decimals = none → text = []) ∧
      ∀ rest, Stops Char.isDigit rest → Stops (· == '.') rest →
        readFraction (text ++ rest) = (decimals, rest) := by
  rcases fraction with rfl | ⟨decimals, rfl, decimal⟩
  · exact ⟨none, fun _ => rfl, fun rest _ => readFraction_stops⟩
  · refine ⟨some decimals, nofun, fun rest digits _ => ?_⟩
    have read := Text.run1_append decimal.nonempty decimal.decimal digits
    simp [readFraction, read]

theorem readExponent_stops (stops : Stops isNumeral rest) : readExponent rest = (none, rest) := by
  cases rest with
  | nil => rfl
  | cons c rest =>
      obtain ⟨-, -, small, capital⟩ := isNumeral_eq_false.mp (stops c rfl)
      simp [readExponent, small, capital]

/-- An exponent is read up to its end, and told from none. -/
theorem readExponent_append (exponent : IsExponent text) :
    ∃ power : Option Int, (power = none → text = []) ∧
      ∀ rest, Stops isNumeral rest → readExponent (text ++ rest) = (power, rest) := by
  rcases exponent with rfl | ⟨sign, digits, rfl, signs, decimal⟩
  · exact ⟨none, fun _ => rfl, fun rest => readExponent_stops⟩
  · have read := fun rest (stops : Stops isNumeral rest) =>
      Text.run1_append decimal.nonempty decimal.decimal (stops_isDigit stops)
    obtain rfl | rfl : sign = '+' ∨ sign = '-' := by simpa using signs
    · exact ⟨some (digitsValue digits), nofun, fun rest stops => by
        simp [readExponent, read rest stops]⟩
    · exact ⟨some (-digitsValue digits), nofun, fun rest stops => by
        simp [readExponent, read rest stops]⟩

/-- Neither digits nor a point go on into an exponent. -/
theorem stops_exponent (exponent : IsExponent text) (stops : Stops isNumeral rest) :
    Stops Char.isDigit (text ++ rest) ∧ Stops (· == '.') (text ++ rest) := by
  rcases exponent with rfl | ⟨_, _, rfl, -⟩
  · exact ⟨stops_isDigit stops, stops_point stops⟩
  · exact ⟨Text.stops_cons (by decide), Text.stops_cons (by decide)⟩

/-- A whole number is read as the value of its digits. -/
theorem readUnsigned_whole (negative : Bool) (whole : IsWhole text) (stops : Stops isNumeral rest) :
    readUnsigned .unlimited negative (text ++ rest) =
      .ok (int (if negative then -digitsValue text else digitsValue text), rest) := by
  rw [readUnsigned, readWhole_append whole (stops_isDigit stops)]
  simp only [readFraction_stops (stops_point stops), readExponent_stops stops]
  rfl

/-- Any other number is read as a double, up to its end. -/
theorem readUnsigned_real (negative : Bool) (real : IsReal text) :
    ∃ x, ∀ rest, Stops isNumeral rest →
      readUnsigned .unlimited negative (text ++ rest) = .ok (float x, rest) := by
  obtain ⟨whole, fraction, exponent, rfl, isWhole, isFraction, isExponent, given⟩ := real
  obtain ⟨decimals, isFractional, readFraction⟩ := readFraction_append isFraction
  obtain ⟨power, isScaled, readExponent⟩ := readExponent_append isExponent
  have further : decimals = none → power ≠ none := fun missing unscaled =>
    given (isFractional missing) (isScaled unscaled)
  let size := Decimal.toFloat (digitsValue (whole ++ decimals.getD []))
    (power.getD 0 - (decimals.getD []).length)
  refine ⟨if negative then -size else size, fun rest stops => ?_⟩
  obtain ⟨digits, point⟩ := stops_exponent isExponent stops
  have beforeFraction : Stops Char.isDigit (fraction ++ (exponent ++ rest)) := by
    rcases isFraction with rfl | ⟨_, rfl, -⟩
    · exact digits
    · exact Text.stops_cons (by decide)
  rw [readUnsigned, List.append_assoc, List.append_assoc, readWhole_append isWhole beforeFraction]
  simp only [readFraction _ digits point, readExponent rest stops]
  cases decimals with
  | some => cases power <;> rfl
  | none =>
      cases power with
      | some => rfl
      | none => exact absurd rfl (further rfl)

/-- The sign is read before the digits. -/
theorem readScalar_signed {c : Char} (digit : c.isDigit = true) (negative : Bool)
    (text : List Char) :
    readScalar .strict (signed negative (c :: text)) =
      readUnsigned .unlimited negative (c :: text) := by
  cases negative with
  | true => rfl
  | false =>
      have unsigned : c ≠ '-' := by
        rintro rfl
        cases digit
      rw [signed, if_neg Bool.false_ne_true, readScalar]
      · rw [if_pos digit]
        rfl
      · exact unsigned

theorem exists_cons_of_isWhole (whole : IsWhole text) :
    ∃ c digits, text = c :: digits ∧ c.isDigit = true := by
  cases text with
  | nil => exact absurd rfl whole.digits.nonempty
  | cons c digits => exact ⟨c, digits, rfl, whole.digits.decimal c (by simp)⟩

theorem exists_cons_of_isReal (real : IsReal text) :
    ∃ c digits, text = c :: digits ∧ c.isDigit = true := by
  obtain ⟨whole, fraction, exponent, rfl, isWhole, -⟩ := real
  obtain ⟨c, digits, rfl, digit⟩ := exists_cons_of_isWhole isWhole
  exact ⟨c, _, rfl, digit⟩

/-- A natural number is the value of its digits. -/
theorem digitsValue_natDigits (n : Nat) : digitsValue (Decimal.natDigits n) = n := by
  rw [digitsValue, Decimal.ofDigits, List.foldl_map]
  exact Nat.ofDigitChars_ten_toDigits

/-- A whole number is read as itself. -/
theorem readScalar_int (n : Int) (stops : Stops isNumeral rest) :
    readScalar .strict ((Decimal.intText n).toList ++ rest) = .ok (int n, rest) := by
  have whole := Decimal.isWhole_natDigits n.natAbs
  have read := readUnsigned_whole (n < 0) whole stops
  obtain ⟨c, digits, spelled, digit⟩ := exists_cons_of_isWhole whole
  rw [Decimal.toList_intText, Decimal.signed_append]
  rw [digitsValue_natDigits] at read
  rw [spelled, List.cons_append] at read ⊢
  rw [readScalar_signed digit, read]
  by_cases negative : n < 0
  · simp only [negative, decide_true, if_true]
    rw [show -(n.natAbs : Int) = n by omega]
  · simp only [negative, decide_false, Bool.false_eq_true, if_false]
    rw [show (n.natAbs : Int) = n by omega]

/-- The double that the text of a double spells. -/
def reparsed (x : Float) : Float :=
  match readScalar .strict (Decimal.floatText Decimal.documentStyle x).toList with
  | .ok (float y, _) => y
  | _ => x

/-- Whether a double is a number that is not infinite. -/
def isFiniteFloat (x : Float) : Bool :=
  !(x.isNaN || x.isInf)

/-- A double is read as the one that its text spells, if it is finite. -/
theorem readScalar_float {x : Float} (finite : isFiniteFloat x = true)
    (stops : Stops isNumeral rest) :
    readScalar .strict ((Decimal.floatText Decimal.documentStyle x).toList ++ rest) =
      .ok (float (reparsed x), rest) := by
  obtain ⟨isNumber, bounded⟩ : x.isNaN = false ∧ x.isInf = false := by
    simpa [isFiniteFloat] using finite
  obtain ⟨negative, number, spelled, real⟩ :=
    Decimal.floatText_finite Decimal.documentStyle isNumber bounded
  obtain ⟨y, read⟩ := readUnsigned_real negative real
  obtain ⟨c, digits, begins, digit⟩ := exists_cons_of_isReal real
  have readOn : ∀ rest, Stops isNumeral rest →
      readScalar .strict ((Decimal.floatText Decimal.documentStyle x).toList ++ rest) =
        .ok (float y, rest) := by
    intro rest stops
    have further := read rest stops
    rw [spelled, Decimal.signed_append]
    rw [begins, List.cons_append] at further ⊢
    rw [readScalar_signed digit, further]
  have alone := readOn [] (Text.stops_nil _)
  rw [List.append_nil] at alone
  have value : reparsed x = y := by rw [reparsed, alone]
  rw [readOn rest stops, value]

/-- The words for doubles that are not finite are none in the strict dialect. -/
theorem readScalar_notFinite {x : Float} (infinite : isFiniteFloat x = false) :
    readScalar .strict ((Decimal.floatText Decimal.documentStyle x).toList ++ rest) =
      .error .malformed := by
  have unbounded : (x.isNaN || x.isInf) = true := (Bool.not_eq_false' _).mp infinite
  rcases Decimal.floatText_notFinite Decimal.documentStyle unbounded with word | word | word
  all_goals
    rw [word]
    rfl

end Numerals

end Json

end Flowchart
