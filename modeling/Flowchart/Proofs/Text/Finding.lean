import Flowchart.Proofs.Text.Front

/-!
Finding what starts with a word.

A recognizer that is led by a word finds something only at the words of a text, and whether it does
is decided by what follows the word. A text is thus searched word by word, and everything between
the words is passed over.

Of any search, what is found is read from the text, and its stretch says where.

Main statements: `mem_findAll`, `WordLed.findAll_word_none`, `WordLed.findAll_word_some`.
-/

namespace Flowchart.Text

/-- A recognizer that reads a word and then something after it. -/
structure WordLed {α β : Type} (item : Recognizer α) (after : Recognizer β)
    (make : List Char → β → α) : Prop where
  word : ∀ {word rest : List Char}, word ≠ [] → (∀ c ∈ word, isNameChar c = true) →
    Stops isNameChar rest →
      item (word ++ rest) = (after rest).map fun found => (make word found.1, found.2)
  other : ∀ {c : Char} {rest : List Char}, isNameChar c = false → item (c :: rest) = none

variable {α β : Type} {item : Recognizer α} {after : Recognizer β} {make : List Char → β → α}

theorem findAll_of_none {c : Char} {rest : List Char} (position : Nat)
    (refused : item (c :: rest) = none) :
    findAll item position (c :: rest) = findAll item (position + 1) rest := by
  rw [findAll, refused]

theorem findAll_of_some {c : Char} {rest left : List Char} {value : α} (position : Nat)
    (read : item (c :: rest) = some (value, left)) (shorter : left.length ≤ rest.length) :
    findAll item position (c :: rest) =
      (⟨position, position + ((c :: rest).length - left.length)⟩, value) ::
        findAll item (position + ((c :: rest).length - left.length)) left := by
  rw [findAll, read]
  simp [shorter]

/-! ### Stretches -/

/-- One stretch ends before the other begins. -/
def Span.Apart (left right : Span) : Prop :=
  left.stop ≤ right.start ∨ right.stop ≤ left.start

theorem Span.overlaps_eq_false_iff {left right : Span} :
    left.overlaps right = false ↔ left.Apart right := by
  rw [Span.overlaps, Bool.and_eq_false_iff, decide_eq_false_iff_not, decide_eq_false_iff_not,
    Nat.not_lt, Nat.not_lt]
  exact or_comm

theorem Span.Apart.symm {left right : Span} (apart : left.Apart right) : right.Apart left :=
  Or.symm apart

/-- A recognizer that leaves an end of what it reads from. -/
def LeavesEnd {α : Type} (item : Recognizer α) : Prop :=
  ∀ ⦃text : List Char⦄ ⦃value : α⦄ ⦃left : List Char⦄, item text = some (value, left) →
    left <:+ text

/-- Reading several values one after the other leaves an end, too. -/
theorem many_isSuffix (leaves : LeavesEnd item) (text : List Char) :
    (many item text).2 <:+ text := by
  fun_induction many item text with
  | case1 text value rest read shorter values left more ih =>
      rw [more] at ih
      exact ih.trans (leaves read)
  | case2 => exact List.suffix_refl _
  | case3 => exact List.suffix_refl _

/-- What is found is read from some position on, and its stretch goes up to what is left. -/
theorem mem_findAll (leaves : LeavesEnd item) {position : Nat}
    {text : List Char} {found : Span × α} (member : found ∈ findAll item position text) :
    ∃ front taken left, text = front ++ (taken ++ left) ∧ taken ≠ [] ∧
      item (taken ++ left) = some (found.2, left) ∧
      found.1 = ⟨position + front.length, position + front.length + taken.length⟩ := by
  fun_induction findAll item position text with
  | case1 => cases member
  | case2 position c rest value left read shorter stop ih =>
      obtain ⟨taken, split⟩ := leaves read
      have length := congrArg List.length split
      rw [List.length_append, List.length_cons] at length
      have isStop : stop = position + taken.length := by omega
      rcases List.mem_cons.mp member with rfl | later
      · refine ⟨[], taken, left, split.symm, ?_, split ▸ read, ?_⟩
        · rintro rfl
          rw [List.length_nil] at length
          omega
        · rw [isStop]
          rfl
      · obtain ⟨front, next, last, rfl, filled, readNext, isSpan⟩ := ih later
        refine ⟨taken ++ front, next, last, ?_, filled, readNext, ?_⟩
        · rw [← split, List.append_assoc]
        · rw [isSpan, isStop, List.length_append, Nat.add_assoc position]
  | case3 position c rest value left read longer ih =>
      obtain ⟨front, taken, left, rfl, others⟩ := ih member
      refine ⟨c :: front, taken, left, rfl, ?_⟩
      rwa [List.length_cons, Nat.add_comm front.length, ← Nat.add_assoc]
  | case4 position c rest refused ih =>
      obtain ⟨front, taken, left, rfl, others⟩ := ih member
      refine ⟨c :: front, taken, left, rfl, ?_⟩
      rwa [List.length_cons, Nat.add_comm front.length, ← Nat.add_assoc]

/-! ### Words -/

namespace WordLed

/-- What is no word is passed over. -/
theorem findAll_others (led : WordLed item after make) {between : List Char}
    (outside : ∀ c ∈ between, isNameChar c = false) (position : Nat) (rest : List Char) :
    findAll item position (between ++ rest) =
      findAll item (position + between.length) rest := by
  induction between generalizing position with
  | nil => rfl
  | cons c between ih =>
      have refused : item (c :: (between ++ rest)) = none := led.other (outside c (by simp))
      have tail := ih (fun d member => outside d (List.mem_cons_of_mem c member)) (position + 1)
      rw [List.cons_append, findAll_of_none position refused, tail, List.length_cons]
      congr 1
      omega

/-- A word is passed over when nothing is read after it. -/
theorem findAll_word_none (led : WordLed item after make) {word rest : List Char}
    (inside : ∀ c ∈ word, isNameChar c = true) (stops : Stops isNameChar rest)
    (refused : after rest = none) (position : Nat) :
    findAll item position (word ++ rest) = findAll item (position + word.length) rest := by
  induction word generalizing position with
  | nil => rfl
  | cons c word ih =>
      have unread : item (c :: (word ++ rest)) = none := by
        have read := led.word (List.cons_ne_nil c word) inside stops
        rw [refused] at read
        exact read
      have tail := ih (fun d member => inside d (List.mem_cons_of_mem c member)) (position + 1)
      rw [List.cons_append, findAll_of_none position unread, tail, List.length_cons]
      congr 1
      omega

/-- A word is found together with what is read after it. -/
theorem findAll_word_some (led : WordLed item after make) {word rest left : List Char} {found : β}
    (nonempty : word ≠ []) (inside : ∀ c ∈ word, isNameChar c = true)
    (stops : Stops isNameChar rest) (read : after rest = some (found, left))
    (shorter : left.length ≤ rest.length) (position : Nat) :
    findAll item position (word ++ rest) =
      (⟨position, position + word.length + (rest.length - left.length)⟩, make word found) ::
        findAll item (position + word.length + (rest.length - left.length)) left := by
  cases word with
  | nil => exact absurd rfl nonempty
  | cons c word =>
      have whole : item (c :: (word ++ rest)) = some (make (c :: word) found, left) := by
        have led := led.word nonempty inside stops
        rw [read] at led
        exact led
      have length : position + ((c :: (word ++ rest)).length - left.length) =
          position + (c :: word).length + (rest.length - left.length) := by
        simp only [List.length_cons, List.length_append]
        omega
      have here := findAll_of_some position whole (by simp only [List.length_append]; omega)
      rw [length] at here
      exact here

end WordLed

end Flowchart.Text
