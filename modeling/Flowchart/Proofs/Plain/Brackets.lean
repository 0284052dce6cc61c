import Flowchart.Proofs.Plain.Words
import Flowchart.Proofs.Scan.Claims

/-!
The search for brackets at the nodes of plain diagrams.

The search for one shape passes over an id without brackets. At an id with brackets it finds the
node when the brackets are of its shape. It also takes compound brackets for simple ones:
`[(text)]` for square brackets around `(text)`, and `((text))` for round ones around `(text`.

Main statement: `Mention.declarationsFrom_chars`.
-/

namespace Flowchart.Plain

open Flowchart.Text Flowchart.Scan

/-! ### What follows a word -/

/-- What the search for a shape reads after a word: the text in brackets. -/
def afterBracket (shape : Shape) : Recognizer (List Char) := fun text => do
  let stop := shape.closing.headD ']'
  let (body, rest) ← run1 (· != stop) (← afterLiteral shape.opening (text.dropWhile isBlank))
  some (body, ← afterLiteral shape.closing rest)

/-- The search for a shape reads a word and then the brackets behind it. -/
theorem wordLed_bracketed (shape : Shape) :
    WordLed (bracketed shape) (afterBracket shape) Prod.mk where
  word := by
    intro word rest nonempty inside stops
    have read := run1_append nonempty inside stops
    simp only [bracketed, afterBracket, read, Option.bind_eq_bind, Option.bind_some,
      Option.map_bind, Function.comp_def, Option.map_some]
  other := by
    intro c rest outside
    have read : run1 isNameChar (c :: rest) = none := run1_of_stops (stops_cons outside)
    simp [bracketed, read]

/-- The characters that brackets begin with. -/
def openers : List Char :=
  "[(\x7b>".toList

theorem notMem_openers {c : Char} (word : isAsciiWord c = true) : c ∉ openers :=
  notMem_of_isMark word (by decide)

/-- Nothing is read where no brackets begin. -/
theorem afterBracket_of_notMem (shape : Shape) {c : Char} (other : c ∉ openers)
    (visible : isBlank c = false) (rest : List Char) : afterBracket shape (c :: rest) = none := by
  have unopened : afterLiteral shape.opening (c :: rest) = none := by
    have listed : ∃ opener literal, shape.opening = opener :: literal ∧ opener ∈ openers := by
      cases shape <;> exact ⟨_, _, rfl, by decide⟩
    obtain ⟨opener, literal, opening, member⟩ := listed
    have differs : c ≠ opener := by
      rintro rfl
      exact other member
    rw [opening, afterLiteral, if_neg differs]
  rw [afterBracket, dropWhile_of_stops (stops_cons visible), unopened]
  rfl

theorem afterBracket_space (shape : Shape) (rest : List Char) :
    afterBracket shape (' ' :: rest) = afterBracket shape rest := by
  have blank : isBlank ' ' = true := by decide
  rw [afterBracket, List.dropWhile_cons_of_pos blank]
  rfl

/-- Brackets are read with the text in them, unless that holds their end. -/
theorem afterBracket_append {shape : Shape} {body : List Char} (nonempty : body ≠ [])
    (open_ : ∀ c ∈ body, (c != shape.closing.headD ']') = true) (rest : List Char) :
    afterBracket shape (shape.opening ++ body ++ shape.closing ++ rest) = some (body, rest) := by
  have visible : Stops isBlank (shape.opening ++ (body ++ (shape.closing ++ rest))) := by
    cases shape <;> exact stops_cons (by decide)
  have stops : Stops (· != shape.closing.headD ']') (shape.closing ++ rest) := by
    cases shape <;> exact stops_cons (by decide)
  rw [afterBracket, List.append_assoc, List.append_assoc, dropWhile_of_stops visible]
  simp only [afterLiteral_append, run1_append nonempty open_ stops, Option.bind_eq_bind,
    Option.bind_some]

/-! ### Shades -/

/-- Whether the search for a shape takes the brackets of another for its own. -/
def shades : Shape → Shape → Bool
  | .square, .cylinder | .square, .subroutine | .round, .stadium | .round, .circle => true
  | _, _ => false

/-- Square brackets are seen inside cylinders and subroutines, round ones inside stadiums and
circles. -/
theorem shades_cases {seen shape : Shape} (shaded : shades seen shape = true) :
    (seen = .square ∧ shape = .cylinder) ∨ (seen = .square ∧ shape = .subroutine) ∨
      (seen = .round ∧ shape = .stadium) ∨ (seen = .round ∧ shape = .circle) := by
  revert shaded
  cases seen <;> cases shape <;> decide

/-- The text that is found in compound brackets when they are taken for simple ones. -/
def Bracket.shadeBody (bracket : Bracket) : List Char :=
  match bracket.shape with
  | .cylinder => '(' :: (bracket.text.text ++ [')'])
  | .stadium => '[' :: (bracket.text.text ++ [']'])
  | .subroutine => '[' :: bracket.text.text
  | .circle => '(' :: bracket.text.text
  | _ => []

/-- What is left of compound brackets when they are taken for simple ones. -/
def Bracket.shadeLeft (bracket : Bracket) : List Char :=
  match bracket.shape with
  | .subroutine => [']']
  | .circle => [')']
  | _ => []

/-- The text in brackets does not hold the character they end with. -/
theorem Bracket.open_text (bracket : Bracket) (stop : Char) (mark : isMark stop = true)
    (visible : stop ≠ ' ') : ∀ c ∈ bracket.text.text, (c != stop) = true :=
  fun _ member => bne_iff_ne.mpr (bracket.text.isPhrase.ne_of_mem member mark visible)

theorem Bracket.text_ne_nil (bracket : Bracket) : bracket.text.text ≠ [] :=
  bracket.text.isPhrase.isTrimmed.nonempty

/-- The search for the shape of the brackets reads the text in them. -/
theorem Bracket.afterBracket_own (bracket : Bracket) (rest : List Char) :
    afterBracket bracket.shape (bracket.chars ++ rest) = some (bracket.text.text, rest) := by
  have mark : isMark (bracket.shape.closing.headD ']') = true ∧
      bracket.shape.closing.headD ']' ≠ ' ' := by
    cases bracket.shape <;> decide
  exact afterBracket_append bracket.text_ne_nil (bracket.open_text _ mark.1 mark.2) rest

theorem forall_ne_append {left right : List Char} {stop : Char}
    (inLeft : ∀ c ∈ left, (c != stop) = true) (inRight : ∀ c ∈ right, (c != stop) = true) :
    ∀ c ∈ left ++ right, (c != stop) = true := by
  intro c member
  rcases List.mem_append.mp member with member | member
  · exact inLeft c member
  · exact inRight c member

theorem forall_ne_singleton {c stop : Char} (differs : (c != stop) = true) :
    ∀ d ∈ [c], (d != stop) = true := by
  simpa using differs

/-- The search for a shape that takes the brackets for its own. -/
theorem Bracket.afterBracket_shade (bracket : Bracket) {seen : Shape}
    (shaded : shades seen bracket.shape = true) (rest : List Char) :
    afterBracket seen (bracket.chars ++ rest) =
      some (bracket.shadeBody, bracket.shadeLeft ++ rest) := by
  have bracketFree := bracket.open_text ']' (by decide) (by decide)
  have parenFree := bracket.open_text ')' (by decide) (by decide)
  obtain ⟨shape, text, known⟩ := bracket
  rcases shades_cases shaded with ⟨rfl, rfl⟩ | ⟨rfl, rfl⟩ | ⟨rfl, rfl⟩ | ⟨rfl, rfl⟩
  · have read := @afterBracket_append .square (['('] ++ text.text ++ [')']) (by simp)
      (forall_ne_append (forall_ne_append (forall_ne_singleton (by decide)) bracketFree)
        (forall_ne_singleton (by decide))) rest
    simpa [Bracket.chars, Bracket.shadeBody, Bracket.shadeLeft, Shape.opening, Shape.closing]
      using read
  · have read := @afterBracket_append .square (['['] ++ text.text) (by simp)
      (forall_ne_append (forall_ne_singleton (by decide)) bracketFree) (']' :: rest)
    simpa [Bracket.chars, Bracket.shadeBody, Bracket.shadeLeft, Shape.opening, Shape.closing]
      using read
  · have read := @afterBracket_append .round (['['] ++ text.text ++ [']']) (by simp)
      (forall_ne_append (forall_ne_append (forall_ne_singleton (by decide)) parenFree)
        (forall_ne_singleton (by decide))) rest
    simpa [Bracket.chars, Bracket.shadeBody, Bracket.shadeLeft, Shape.opening, Shape.closing]
      using read
  · have read := @afterBracket_append .round (['('] ++ text.text) (by simp)
      (forall_ne_append (forall_ne_singleton (by decide)) parenFree) (')' :: rest)
    simpa [Bracket.chars, Bracket.shadeBody, Bracket.shadeLeft, Shape.opening, Shape.closing]
      using read

/-- The search for any other shape reads nothing. -/
theorem Bracket.afterBracket_foreign (bracket : Bracket) {seen : Shape} (listed : seen ∈ shapes)
    (foreign : bracket.shape ≠ seen) (clear : shades seen bracket.shape = false)
    (rest : List Char) : afterBracket seen (bracket.chars ++ rest) = none := by
  obtain ⟨shape, text, known⟩ := bracket
  obtain ⟨c, tail, starts, word⟩ := text.isPhrase.head
  have other : c ≠ '[' ∧ c ≠ '(' := by
    constructor <;> rintro rfl <;> exact notMem_openers word (by decide)
  have unopened :
      afterLiteral seen.opening (shape.opening ++ (c :: tail) ++ shape.closing ++ rest) =
      none := by
    -- Other pairs of shapes differ in their openings, or in what a longer opening finds there.
    simp only [shapes, List.mem_cons, List.not_mem_nil, or_false] at listed known
    rcases listed with rfl | rfl | rfl | rfl | rfl | rfl | rfl <;>
      rcases known with rfl | rfl | rfl | rfl | rfl | rfl | rfl <;>
      first
        | exact absurd rfl foreign
        | exact absurd clear Bool.true_eq_false.mp
        | simp [Shape.opening, afterLiteral, other.1, other.2]
  have visible : Stops isBlank (shape.opening ++ (c :: tail) ++ shape.closing ++ rest) := by
    cases shape <;> exact stops_cons (by decide)
  rw [afterBracket, Bracket.chars, starts, dropWhile_of_stops visible, unopened]
  rfl

/-! ### Sites -/

/-- A node with brackets in a chain, and where it starts. -/
structure Site where
  start : Nat
  name : Name
  bracket : Bracket

/-- A node that is found at a site, with the text that is read there. -/
def Site.found (site : Site) (shape : Shape) (body : List Char) : Declaration where
  span := ⟨site.start, site.start + site.name.text.length +
    (shape.opening.length + body.length + shape.closing.length)⟩
  id := site.name.id
  text := unquoteOnce body
  shape := shape

/-- The search for nodes with brackets, shape by shape. -/
def bracketSurvey : Survey Shape Site Declaration where
  kinds := bracketShapes
  kind site := site.bracket.shape
  shades := shades
  item site := site.found site.bracket.shape site.bracket.text.text
  shade seen site := site.found seen site.bracket.shadeBody

/-- The site of a node that starts at a position, if it has brackets. -/
def Mention.sites (start : Nat) (mention : Mention) : List Site :=
  mention.bracket.toList.map fun bracket => ⟨start, mention.name, bracket⟩

/-- The sites along steps that start at a position. -/
def sitesFrom : Nat → List Step → List Site
  | _, [] => []
  | position, step :: steps =>
    step.target.sites (position + step.tie.chars.length + 2) ++
      sitesFrom (position + step.chars.length) steps

/-- The sites of a chain. -/
def Chain.sites (links : Chain) : List Site :=
  links.first.sites 0 ++ sitesFrom links.first.chars.length links.steps

/-! ### The search at a node -/

/-- The nodes that the search for a shape finds in a text that starts at a position. -/
def declarationsFrom (shape : Shape) (position : Nat) (text : List Char) : List Declaration :=
  (findAll (bracketed shape) position text).map fun found =>
    ⟨found.1, String.ofList found.2.1, unquoteOnce found.2.2, shape⟩

/-- The end of a line, or a link after a space. -/
def BeforeLink (rest : List Char) : Prop :=
  rest = [] ∨ ∃ c tail, rest = ' ' :: c :: tail ∧ (c = '-' ∨ c = '=')

theorem BeforeLink.stops {rest : List Char} (link : BeforeLink rest) : Stops isNameChar rest := by
  rcases link with rfl | ⟨c, tail, rfl, _⟩
  · exact stops_nil _
  · exact stops_cons (by decide)

/-- No bracket opens in front of a link. -/
theorem BeforeLink.afterBracket {rest : List Char} (link : BeforeLink rest) (shape : Shape) :
    afterBracket shape rest = none := by
  rcases link with rfl | ⟨c, tail, rfl, rfl | rfl⟩
  · cases shape <;> rfl
  · rw [afterBracket_space]
    exact afterBracket_of_notMem shape (by decide) (by decide) tail
  · rw [afterBracket_space]
    exact afterBracket_of_notMem shape (by decide) (by decide) tail

theorem Bracket.stops_chars (bracket : Bracket) (rest : List Char) :
    Stops isNameChar (bracket.chars ++ rest) := by
  rw [Bracket.chars, List.append_assoc, List.append_assoc]
  cases bracket.shape <;> exact stops_cons (by decide)

theorem Bracket.shadeLeft_others (bracket : Bracket) :
    ∀ c ∈ bracket.shadeLeft, isNameChar c = false := by
  rw [Bracket.shadeLeft]
  cases bracket.shape <;> exact isNameChar_of_all (by decide)

/-- How much of the line is read when brackets are taken for others. -/
theorem Bracket.length_shade (bracket : Bracket) {seen : Shape}
    (shaded : shades seen bracket.shape = true) :
    bracket.chars.length = seen.opening.length + bracket.shadeBody.length + seen.closing.length +
      bracket.shadeLeft.length := by
  obtain ⟨shape, text, known⟩ := bracket
  rcases shades_cases shaded with ⟨rfl, rfl⟩ | ⟨rfl, rfl⟩ | ⟨rfl, rfl⟩ | ⟨rfl, rfl⟩ <;>
    simp [Bracket.chars, Bracket.shadeBody, Bracket.shadeLeft, Shape.opening, Shape.closing] <;>
    omega

/-- The search for brackets reads nothing between the words of a text. -/
theorem afterBracket_between (shape : Shape) (c : Char) (rest : List Char)
    (word : isAsciiWord c = true) : afterBracket shape (' ' :: c :: rest) = none := by
  rw [afterBracket_space]
  exact afterBracket_of_notMem shape (notMem_openers word) (isBlank_of_isAsciiWord word) rest

/-- The search for a shape passes over brackets whose id it has passed. -/
theorem Bracket.findAll_chars (bracket : Bracket) (shape : Shape) (position : Nat)
    (rest : List Char) :
    findAll (bracketed shape) position (bracket.chars ++ rest) =
      findAll (bracketed shape) (position + bracket.chars.length) rest := by
  have led := wordLed_bracketed shape
  have opening : ∀ c ∈ bracket.shape.opening, isNameChar c = false := by
    cases bracket.shape <;> exact isNameChar_of_all (by decide)
  have closing : ∀ c ∈ bracket.shape.closing, isNameChar c = false := by
    cases bracket.shape <;> exact isNameChar_of_all (by decide)
  obtain ⟨c, tail, closes, mark, visible⟩ : ∃ c tail, bracket.shape.closing = c :: tail ∧
      c ∉ openers ∧ isBlank c = false := by
    cases bracket.shape <;> exact ⟨_, _, rfl, by decide, by decide⟩
  have refused : afterBracket shape (bracket.shape.closing ++ rest) = none := by
    rw [closes]
    exact afterBracket_of_notMem shape mark visible (tail ++ rest)
  have stops : Stops isNameChar (bracket.shape.closing ++ rest) := by
    rw [closes]
    exact stops_cons (closing c (by simp [closes]))
  rw [Bracket.chars, List.append_assoc, List.append_assoc, led.findAll_others opening,
    findAll_words led bracket.text.isPhrase.areWords
      (bracket.text.isPhrase.between (afterBracket_between shape)) stops refused,
    led.findAll_others closing]
  congr 1
  simp only [List.length_append]
  omega

section Site

variable (name : Name) (bracket : Bracket) (position : Nat) (rest : List Char)

/-- The search for the shape of a node finds it. -/
theorem declarationsFrom_own :
    declarationsFrom bracket.shape position (name.text ++ (bracket.chars ++ rest)) =
      Site.found ⟨position, name, bracket⟩ bracket.shape bracket.text.text ::
        declarationsFrom bracket.shape (position + name.text.length + bracket.chars.length)
          rest := by
  have read := (wordLed_bracketed bracket.shape).findAll_word_some name.isWord.nonempty
    (isNameChar_of_isWord name.isWord) (bracket.stops_chars rest) (bracket.afterBracket_own rest)
    (by simp) position
  rw [List.length_append, Nat.add_sub_cancel] at read
  rw [declarationsFrom, declarationsFrom, read, List.map_cons]
  simp [Site.found, Name.id, Bracket.chars, Nat.add_assoc]

variable {shape : Shape}

/-- The search for a shape that the brackets of a node are taken for finds it with other text. What
is left of the brackets holds no further node. -/
theorem declarationsFrom_shade (shaded : shades shape bracket.shape = true) :
    declarationsFrom shape position (name.text ++ (bracket.chars ++ rest)) =
      Site.found ⟨position, name, bracket⟩ shape bracket.shadeBody ::
        declarationsFrom shape (position + name.text.length + bracket.chars.length) rest := by
  have led := wordLed_bracketed shape
  have span := bracket.length_shade shaded
  have read := led.findAll_word_some name.isWord.nonempty (isNameChar_of_isWord name.isWord)
    (bracket.stops_chars rest) (bracket.afterBracket_shade shaded rest)
    (by simp only [List.length_append]; omega) position
  have taken : (bracket.chars ++ rest).length - (bracket.shadeLeft ++ rest).length =
      shape.opening.length + bracket.shadeBody.length + shape.closing.length := by
    simp only [List.length_append]
    omega
  have left := led.findAll_others bracket.shadeLeft_others (position + name.text.length +
    (shape.opening.length + bracket.shadeBody.length + shape.closing.length)) rest
  rw [Nat.add_assoc _ _ bracket.shadeLeft.length, ← span] at left
  rw [declarationsFrom, declarationsFrom, read, taken, left]
  rfl

/-- The search for any other shape passes over the node. -/
theorem declarationsFrom_clear (listed : shape ∈ shapes) (other : bracket.shape ≠ shape)
    (clear : shades shape bracket.shape = false) :
    declarationsFrom shape position (name.text ++ (bracket.chars ++ rest)) =
      declarationsFrom shape (position + name.text.length + bracket.chars.length) rest := by
  have passed := (wordLed_bracketed shape).findAll_word_none (isNameChar_of_isWord name.isWord)
    (bracket.stops_chars rest) (bracket.afterBracket_foreign listed other clear rest) position
  rw [declarationsFrom, declarationsFrom, passed, bracket.findAll_chars]

end Site

/-- The search for a shape at a node of a chain. -/
theorem Mention.declarationsFrom_chars (mention : Mention) {shape : Shape} (listed : shape ∈ shapes)
    (position : Nat) {rest : List Char} (link : BeforeLink rest) :
    declarationsFrom shape position (mention.chars ++ rest) =
      (mention.sites position).flatMap (bracketSurvey.hits shape) ++
        declarationsFrom shape (position + mention.chars.length) rest := by
  obtain ⟨name, bracketed⟩ := mention
  cases bracketed with
  | none =>
      have passed := (wordLed_bracketed shape).findAll_word_none (isNameChar_of_isWord name.isWord)
        link.stops (link.afterBracket shape) position
      rw [Mention.chars, Mention.sites, declarationsFrom, declarationsFrom]
      simp [passed]
  | some bracket =>
      have sites : Mention.sites position ⟨name, some bracket⟩ = [⟨position, name, bracket⟩] := rfl
      have chars : Mention.chars ⟨name, some bracket⟩ ++ rest =
          name.text ++ (bracket.chars ++ rest) :=
        List.append_assoc _ _ _
      have length : (Mention.chars ⟨name, some bracket⟩).length =
          name.text.length + bracket.chars.length := List.length_append
      rw [sites, List.flatMap_singleton, chars, length, ← Nat.add_assoc]
      by_cases own : bracket.shape = shape
      · subst own
        have hit : bracketSurvey.hits bracket.shape ⟨position, name, bracket⟩ =
            [Site.found ⟨position, name, bracket⟩ bracket.shape bracket.text.text] :=
          Survey.hits_own rfl
        rw [declarationsFrom_own, hit]
        rfl
      · cases shaded : shades shape bracket.shape with
        | true =>
            have hit : bracketSurvey.hits shape ⟨position, name, bracket⟩ =
                [Site.found ⟨position, name, bracket⟩ shape bracket.shadeBody] :=
              Survey.hits_shade own shaded
            rw [declarationsFrom_shade name bracket position rest shaded, hit]
            rfl
        | false =>
            have hit : bracketSurvey.hits shape ⟨position, name, bracket⟩ = [] :=
              Survey.hits_clear own shaded
            rw [declarationsFrom_clear name bracket position rest listed own shaded, hit,
              List.nil_append]

end Flowchart.Plain
