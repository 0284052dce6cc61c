import Flowchart.Text.Letter
import Flowchart.Text.Word
import Flowchart.Text.Blank

/-!
The classes of characters inside ASCII.

Statements about an ASCII character are checked for the 128 of them; everything else about words
and blanks follows from the classes below.
-/

namespace Flowchart.Text

/-- What holds of the characters with the first 128 codes holds of every ASCII character. -/
theorem forall_ascii (property : Char → Prop)
    (checked : ∀ code : Fin 128, property (Char.ofNat code)) {c : Char} (ascii : c.toNat < 128) :
    property c := by
  have here := checked ⟨c.toNat, ascii⟩
  rwa [Char.ofNat_toNat] at here

/-- Word characters of ASCII have codes below 128. -/
theorem toNat_lt_of_isAsciiWord {c : Char} (word : isAsciiWord c = true) : c.toNat < 128 := by
  have below : ∀ {last : Char}, last.toNat < 128 → c.val ≤ last.val → c.toNat < 128 :=
    fun ascii atMost => Nat.lt_of_le_of_lt (UInt32.le_iff_toNat_le.mp atMost) ascii
  rcases Bool.or_eq_true_iff.mp word with alphanumeric | underscore
  · rcases Bool.or_eq_true_iff.mp alphanumeric with letter | digit
    · rcases Bool.or_eq_true_iff.mp letter with upper | lower
      · have isUpper : c.val ≥ 'A'.val ∧ c.val ≤ 'Z'.val := of_decide_eq_true upper
        exact below (by decide) isUpper.2
      · have atMost : c.val ≤ 'z'.val :=
          of_decide_eq_true (Bool.and_eq_true_iff.mp lower).2
        exact below (by decide) atMost
    · exact Nat.lt_of_le_of_lt (Char.isDigit_iff_toNat.mp digit).2 (by decide)
  · rw [beq_iff_eq.mp underscore]
    decide

/-- An ASCII word character is a word character and a name character. -/
theorem isWordChar_of_isAsciiWord {c : Char} (word : isAsciiWord c = true) :
    isWordChar c = true := by
  rw [isWordChar, if_pos (toNat_lt_of_isAsciiWord word)]
  exact word

theorem isNameChar_of_isAsciiWord {c : Char} (word : isAsciiWord c = true) :
    isNameChar c = true := by
  rw [isNameChar, if_pos (toNat_lt_of_isAsciiWord word)]
  exact word

/-- The characters that structure a statement. None of them belongs to a word. -/
def marks : List Char :=
  "[]()\x7b\x7d<>|-=.&;\"%\x60:,\n\r \t".toList

def isMark (c : Char) : Bool :=
  marks.contains c

/-- A test that all marks pass holds of each of them. -/
theorem test_of_isMark {test : Char → Bool} (passed : marks.all test = true) {c : Char}
    (mark : isMark c = true) : test c = true :=
  List.all_eq_true.mp passed c (List.contains_iff_mem.mp mark)

/-- A word character is no mark. -/
theorem isMark_of_isAsciiWord {c : Char} (word : isAsciiWord c = true) : isMark c = false := by
  have checked : ∀ code : Fin 128, isAsciiWord (Char.ofNat code) = true →
      isMark (Char.ofNat code) = false := by
    decide +kernel
  exact forall_ascii (fun c => isAsciiWord c = true → isMark c = false) checked
    (toNat_lt_of_isAsciiWord word) word

theorem ne_of_isMark {c d : Char} (word : isAsciiWord c = true) (mark : isMark d = true) :
    c ≠ d := by
  rintro rfl
  exact Bool.false_ne_true ((isMark_of_isAsciiWord word).symm.trans mark)

/-- A word character is none of several marks. -/
theorem notMem_of_isMark {c : Char} (word : isAsciiWord c = true) {text : List Char}
    (marked : text.all isMark = true) : c ∉ text :=
  fun member => ne_of_isMark word (List.all_eq_true.mp marked c member) rfl

/-- A mark is no character of a word, of whatever kind. -/
theorem isWordChar_of_isMark {c : Char} (mark : isMark c = true) : isWordChar c = false := by
  have passed : marks.all (fun c => !isWordChar c) = true := by decide
  simpa using test_of_isMark passed mark

theorem isNameChar_of_isMark {c : Char} (mark : isMark c = true) : isNameChar c = false := by
  have passed : marks.all (fun c => !isNameChar c) = true := by decide
  simpa using test_of_isMark passed mark

theorem isAsciiWord_of_isMark {c : Char} (mark : isMark c = true) : isAsciiWord c = false := by
  have passed : marks.all (fun c => !isAsciiWord c) = true := by decide
  simpa using test_of_isMark passed mark

/-- No letter of a keyword is read from a mark, in whatever case. -/
theorem isAsciiWord_foldLetter_of_isMark {c : Char} (mark : isMark c = true) :
    isAsciiWord (foldLetter c) = false := by
  have passed : marks.all (fun c => !isAsciiWord (foldLetter c)) = true := by decide
  simpa using test_of_isMark passed mark

/-- A blank of a statement is a blank, and a mark. -/
theorem isBlank_of_isInlineBlank {c : Char} (blank : isInlineBlank c = true) :
    isBlank c = true := by
  simp only [isInlineBlank, Bool.or_eq_true, beq_iff_eq] at blank
  rcases blank with rfl | rfl <;> decide

theorem isMark_of_isInlineBlank {c : Char} (blank : isInlineBlank c = true) :
    isMark c = true := by
  simp only [isInlineBlank, Bool.or_eq_true, beq_iff_eq] at blank
  rcases blank with rfl | rfl <;> decide

theorem isBlank_of_all {text : List Char} (blank : text.all isBlank = true) :
    ∀ c ∈ text, isBlank c = true :=
  List.all_eq_true.mp blank

theorem visible_of_all {text : List Char} (visible : text.all (fun c => !isBlank c) = true) :
    ∀ c ∈ text, isBlank c = false := by
  intro c member
  simpa using List.all_eq_true.mp visible c member

/-- A word character is no blank. -/
theorem isBlank_of_isAsciiWord {c : Char} (word : isAsciiWord c = true) : isBlank c = false := by
  have checked : ∀ code : Fin 128, isAsciiWord (Char.ofNat code) = true →
      isBlank (Char.ofNat code) = false := by
    decide +kernel
  exact forall_ascii (fun c => isAsciiWord c = true → isBlank c = false) checked
    (toNat_lt_of_isAsciiWord word) word

theorem isInlineBlank_of_isAsciiWord {c : Char} (word : isAsciiWord c = true) :
    isInlineBlank c = false := by
  cases blank : isInlineBlank c with
  | false => rfl
  | true =>
      have isBlank := isBlank_of_isInlineBlank blank
      rw [isBlank_of_isAsciiWord word] at isBlank
      cases isBlank

/-- Blanks have no case. -/
theorem foldLetterDotted_of_isBlank {c : Char} (blank : isBlank c = true) :
    foldLetterDotted c = c := by
  by_cases ascii : c.toNat < 128
  · have checked : ∀ code : Fin 128, isBlank (Char.ofNat code) = true →
        foldLetterDotted (Char.ofNat code) = Char.ofNat code := by decide
    exact forall_ascii (fun c => isBlank c = true → foldLetterDotted c = c) checked ascii blank
  · simp only [isBlank, isSpacing, Bool.or_eq_true, Bool.and_eq_true, decide_eq_true_eq,
      beq_iff_eq] at blank
    have notDotted : (c.toNat == 0x130 || c.toNat == 0x131) = false := by
      rw [Bool.or_eq_false_iff, beq_eq_false_iff_ne, beq_eq_false_iff_ne]
      omega
    have notLong : (c.toNat == 0x17F) = false := by
      rw [beq_eq_false_iff_ne]
      omega
    have notKelvin : (c.toNat == 0x212A) = false := by
      rw [beq_eq_false_iff_ne]
      omega
    rw [foldLetterDotted, notDotted, foldLetter, if_neg ascii, notLong, notKelvin]
    rfl

/-- A blank is no name character. -/
theorem isNameChar_of_isBlank {c : Char} (blank : isBlank c = true) : isNameChar c = false := by
  let codes := List.range' 0x09 5 ++ List.range' 0x1C 5 ++ List.range' 0x2000 11 ++
    [0x85, 0xA0, 0x1680, 0x2028, 0x2029, 0x202F, 0x205F, 0x3000]
  have listed : c.toNat ∈ codes := by
    simp only [isBlank, isSpacing, Bool.or_eq_true, Bool.and_eq_true, decide_eq_true_eq,
      beq_iff_eq] at blank
    simp only [codes, List.mem_append, List.mem_range'_1, List.mem_cons, List.not_mem_nil, or_false]
    omega
  have checked : ∀ code ∈ codes, isNameChar (Char.ofNat code) = false := by decide +kernel
  have here := checked c.toNat listed
  rwa [Char.ofNat_toNat] at here

end Flowchart.Text
