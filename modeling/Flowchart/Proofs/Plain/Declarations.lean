import Flowchart.Proofs.Plain.Brackets

/-!
The nodes with brackets that are found in the chains of plain diagrams.

The search passes over links and the words of their texts, once the labels between pipes are masked.
What a search for simple brackets finds at compound ones is claimed by then, because compound
brackets are searched first. So each node with brackets is found once, and what is left of the line
when they are gone are ids and links.

Main statements: `Chain.declarations_chars`, `Chain.collapse_chars`.
-/

namespace Flowchart.Plain

open Flowchart.Text Flowchart.Scan

/-! ### Labels between pipes -/

/-- A link with spaces in the place of a label between pipes. -/
def Tie.masked : Tie → List Char
  | .labeledArrow label => "-->".toList ++ List.replicate (label.text.length + 2) ' '
  | .labeledDotted label => "-.->".toList ++ List.replicate (label.text.length + 2) ' '
  | tie => tie.chars

def Step.masked (step : Step) : List Char :=
  ' ' :: (step.tie.masked ++ ' ' :: step.target.chars)

/-- A text without pipes is left alone by the masking. -/
theorem maskPipeLabels_append {front : List Char} (free : ∀ c ∈ front, c ≠ '|')
    (rest : List Char) : maskPipeLabels (front ++ rest) = front ++ maskPipeLabels rest := by
  apply replaceAllWith_append
  intro c member more
  rw [afterPipeLabel]
  intro label same
  exact free c member (List.cons.inj same).1

theorem maskPipeLabels_nil : maskPipeLabels [] = [] :=
  replaceAllWith.eq_1 _ _

/-- Without pipes nothing is masked. -/
theorem maskPipeLabels_of_free {line : List Char} (free : ∀ c ∈ line, c ≠ '|') :
    maskPipeLabels line = line := by
  have masked := maskPipeLabels_append free []
  rwa [maskPipeLabels_nil, List.append_nil] at masked

/-- A label between pipes is masked by blanks, the pipes included. -/
theorem maskPipeLabels_label {label : List Char} (pipeFree : '|' ∉ label) (rest : List Char) :
    maskPipeLabels ('|' :: (label ++ '|' :: rest)) =
      List.replicate (label.length + 2) ' ' ++ maskPipeLabels rest := by
  have read : afterPipeLabel ('|' :: (label ++ '|' :: rest)) = some rest := by
    rw [afterPipeLabel, afterFirst_append pipeFree]
    rfl
  have shorter : rest.length ≤ (label ++ '|' :: rest).length := by
    simp only [List.length_append, List.length_cons]
    omega
  have length : (label ++ '|' :: rest).length + 1 - rest.length = label.length + 2 := by
    simp only [List.length_append, List.length_cons]
    omega
  rw [maskPipeLabels, replaceAllWith, read]
  simp only [shorter, if_true, length]
  rfl

/-- No phrase holds a pipe. -/
theorem Phrase.pipeFree (phrase : Phrase) : ∀ c ∈ phrase.text, c ≠ '|' :=
  fun _ member => phrase.isPhrase.ne_of_mem member (by decide) (by decide)

theorem Phrase.pipe_notMem (phrase : Phrase) : '|' ∉ phrase.text :=
  fun member => phrase.pipeFree '|' member rfl

theorem forall_ne_of_all {text : List Char} {mark : Char} (free : text.all (· != mark) = true) :
    ∀ c ∈ text, c ≠ mark := by
  intro c member
  exact bne_iff_ne.mp (List.all_eq_true.mp free c member)

/-- No node of a plain diagram holds a pipe, in its name or in its brackets. -/
theorem Mention.pipeFree (mention : Mention) : ∀ c ∈ mention.chars, c ≠ '|' := by
  have word : ∀ c ∈ mention.name.text, c ≠ '|' :=
    fun c member => ne_of_isMark (mention.name.isWord.ascii c member) (by decide)
  apply forall_append word
  cases mention.bracket with
  | none => simp
  | some bracket =>
      have opening : bracket.shape.opening.all (· != '|') = true := by
        cases bracket.shape <;> decide
      have closing : bracket.shape.closing.all (· != '|') = true := by
        cases bracket.shape <;> decide
      exact forall_append (forall_append (forall_ne_of_all opening) bracket.text.pipeFree)
        (forall_ne_of_all closing)

/-- The label of an arrow is masked and the arrow is kept. -/
theorem maskPipeLabels_labeled {arrow label : List Char} (free : ∀ c ∈ arrow, c ≠ '|')
    (pipeFree : '|' ∉ label) (rest : List Char) :
    maskPipeLabels (arrow ++ '|' :: (label ++ '|' :: rest)) =
      arrow ++ List.replicate (label.length + 2) ' ' ++ maskPipeLabels rest := by
  rw [maskPipeLabels_append free, maskPipeLabels_label pipeFree, List.append_assoc]

/-- Of a connector the masking leaves everything but the label. -/
theorem Tie.maskPipeLabels_chars (tie : Tie) (rest : List Char) :
    maskPipeLabels (tie.chars ++ rest) = tie.masked ++ maskPipeLabels rest := by
  cases tie with
  | arrow | dotted | thick | line =>
      exact maskPipeLabels_append (forall_ne_of_all (by decide)) rest
  | labeledArrow label =>
      rw [Tie.chars_labeledArrow, List.append_assoc, List.cons_append, List.append_assoc]
      exact maskPipeLabels_labeled (forall_ne_of_all (by decide)) label.pipe_notMem rest
  | labeledDotted label =>
      rw [Tie.chars_labeledDotted, List.append_assoc, List.cons_append, List.append_assoc]
      exact maskPipeLabels_labeled (forall_ne_of_all (by decide)) label.pipe_notMem rest
  | textArrow text =>
      exact maskPipeLabels_append (forall_append (forall_append (forall_ne_of_all (by decide))
        text.pipeFree) (forall_ne_of_all (by decide))) rest

theorem maskPipeLabels_steps (steps : List Step) :
    maskPipeLabels (steps.flatMap Step.chars) = steps.flatMap Step.masked := by
  induction steps with
  | nil => exact replaceAllWith.eq_1 _ _
  | cons step steps ih =>
      have space : ∀ c ∈ [' '], c ≠ '|' := forall_ne_of_all (by decide)
      have target := maskPipeLabels_append (forall_append space step.target.pipeFree)
        (steps.flatMap Step.chars)
      have tie := step.tie.maskPipeLabels_chars
        ([' '] ++ step.target.chars ++ steps.flatMap Step.chars)
      have whole := maskPipeLabels_append space
        (step.tie.chars ++ ([' '] ++ step.target.chars ++ steps.flatMap Step.chars))
      rw [tie, target, ih] at whole
      simpa [Step.chars, Step.masked] using whole

/-- Of a chain the masking leaves the nodes and the connectors without their labels. -/
theorem Chain.maskPipeLabels_chars (links : Chain) :
    maskPipeLabels links.chars = links.first.chars ++ links.steps.flatMap Step.masked := by
  rw [Chain.chars, maskPipeLabels_append links.first.pipeFree, maskPipeLabels_steps]

/-! ### The search along a chain -/

theorem Tie.masked_head (tie : Tie) :
    ∃ c tail, tie.masked = c :: tail ∧ (c = '-' ∨ c = '=') := by
  cases tie <;> exact ⟨_, _, rfl, by decide⟩

theorem beforeLink_steps (steps : List Step) : BeforeLink (steps.flatMap Step.masked) := by
  cases steps with
  | nil => exact Or.inl rfl
  | cons step steps =>
      obtain ⟨c, tail, starts, mark⟩ := step.tie.masked_head
      refine Or.inr ⟨c, tail ++ ' ' :: step.target.chars ++ steps.flatMap Step.masked, ?_, mark⟩
      simp [Step.masked, starts]

/-- Masking keeps the length of a connector. -/
theorem Tie.length_masked (tie : Tie) : tie.masked.length = tie.chars.length := by
  cases tie with
  | arrow | dotted | thick | line | textArrow => rfl
  | labeledArrow label =>
      rw [Tie.chars_labeledArrow, Tie.masked]
      simp
  | labeledDotted label =>
      rw [Tie.chars_labeledDotted, Tie.masked]
      simp

/-- The spaces around a link are no more words than the link itself. -/
theorem isNameChar_spaced {text : List Char} (outside : ∀ c ∈ text, isNameChar c = false) :
    ∀ c ∈ [' '] ++ text ++ [' '], isNameChar c = false :=
  have space : ∀ c ∈ [' '], isNameChar c = false := isNameChar_of_all (by decide)
  forall_append (forall_append space outside) space

theorem isNameChar_masked (length : Nat) {arrow : List Char}
    (outside : arrow.all (fun c => !isNameChar c) = true) :
    ∀ c ∈ arrow ++ List.replicate length ' ', isNameChar c = false := by
  refine forall_append (isNameChar_of_all outside) ?_
  intro c member
  rw [List.eq_of_mem_replicate member]
  decide

/-- The search for a shape passes over links. -/
theorem Tie.findAll_masked (tie : Tie) (shape : Shape) (position : Nat) (rest : List Char) :
    findAll (bracketed shape) position ([' '] ++ tie.masked ++ [' '] ++ rest) =
      findAll (bracketed shape) (position + tie.chars.length + 2) rest := by
  have led := wordLed_bracketed shape
  have length : ([' '] ++ tie.masked ++ [' ']).length = tie.chars.length + 2 := by
    simp only [List.length_append, List.length_singleton, tie.length_masked]
    omega
  have passed : (∀ c ∈ tie.masked, isNameChar c = false) →
      findAll (bracketed shape) position ([' '] ++ tie.masked ++ [' '] ++ rest) =
        findAll (bracketed shape) (position + tie.chars.length + 2) rest := by
    intro outside
    rw [led.findAll_others (isNameChar_spaced outside), length, Nat.add_assoc]
  cases tie with
  | arrow | dotted | thick | line => exact passed (isNameChar_of_all (by decide))
  | labeledArrow label | labeledDotted label => exact passed (isNameChar_masked _ (by decide))
  | textArrow text =>
      have before : ∀ c ∈ " -- ".toList, isNameChar c = false := isNameChar_of_all (by decide)
      have behind : ∀ c ∈ " --> ".toList, isNameChar c = false := isNameChar_of_all (by decide)
      have refused : afterBracket shape (" --> ".toList ++ rest) = none := by
        refine (afterBracket_space shape _).trans ?_
        exact afterBracket_of_notMem shape (by decide) (by decide) _
      have stops : Stops isNameChar (" --> ".toList ++ rest) := stops_cons (by decide)
      have opening := led.findAll_others before position (text.text ++ (" --> ".toList ++ rest))
      have words := findAll_words led text.isPhrase.areWords
        (text.isPhrase.between (afterBracket_between shape)) stops refused
        (position + " -- ".toList.length)
      have closing := led.findAll_others behind
        (position + " -- ".toList.length + text.text.length) rest
      have chars : (Tie.textArrow text).masked = "-- ".toList ++ (text.text ++ " -->".toList) :=
        List.append_assoc _ _ _
      have spelled : [' '] ++ (Tie.textArrow text).masked ++ [' '] ++ rest =
          " -- ".toList ++ (text.text ++ (" --> ".toList ++ rest)) := by
        rw [chars]
        simp only [List.append_assoc]
        rfl
      have stop : position + " -- ".toList.length + text.text.length + " --> ".toList.length =
          position + (Tie.textArrow text).chars.length + 2 := by
        have whole : (Tie.textArrow text).chars.length = 3 + (text.text.length + 4) := by
          rw [← Tie.length_masked, chars, List.length_append, List.length_append]
          rfl
        have ends : " -- ".toList.length = 4 ∧ " --> ".toList.length = 5 := by decide
        omega
      rw [spelled, opening, words, closing, stop]

theorem Step.masked_eq (step : Step) :
    step.masked = [' '] ++ step.tie.masked ++ [' '] ++ step.target.chars := by
  simp [Step.masked]

/-- A step is as long as its connector, two blanks and its target. -/
theorem Step.length_chars (step : Step) :
    step.chars.length = step.tie.chars.length + 2 + step.target.chars.length := by
  simp only [Step.chars, List.length_cons, List.length_append]
  omega

/-- The search for a shape along steps. -/
theorem declarationsFrom_steps {shape : Shape} (listed : shape ∈ shapes) (position : Nat)
    (steps : List Step) :
    declarationsFrom shape position (steps.flatMap Step.masked) =
      (sitesFrom position steps).flatMap (bracketSurvey.hits shape) := by
  induction steps generalizing position with
  | nil =>
      rw [List.flatMap_nil, declarationsFrom, findAll]
      rfl
  | cons step steps ih =>
      have passed := step.tie.findAll_masked shape position
        (step.target.chars ++ steps.flatMap Step.masked)
      have here := step.target.declarationsFrom_chars listed (position + step.tie.chars.length + 2)
        (beforeLink_steps steps)
      have rest := ih (position + step.chars.length)
      rw [step.length_chars, ← Nat.add_assoc, ← Nat.add_assoc] at rest
      rw [rest] at here
      rw [List.flatMap_cons, step.masked_eq, List.append_assoc, declarationsFrom, passed, sitesFrom,
        List.flatMap_append, step.length_chars, ← Nat.add_assoc, ← Nat.add_assoc]
      exact here

/-- The search for a shape along a chain. -/
theorem Chain.declarationsOf_chars (links : Chain) {shape : Shape} (listed : shape ∈ shapes) :
    declarationsOf shape (maskPipeLabels links.chars) =
      links.sites.flatMap (bracketSurvey.hits shape) := by
  have first := links.first.declarationsFrom_chars listed 0 (beforeLink_steps links.steps)
  rw [declarationsFrom_steps listed, Nat.zero_add] at first
  rw [links.maskPipeLabels_chars, Chain.sites, List.flatMap_append]
  exact first

/-! ### The order of the sites -/

theorem Name.length_pos (name : Name) : 0 < name.text.length :=
  List.length_pos_iff.mpr name.isWord.nonempty

/-- The part of the line that a site takes up. -/
def Site.declaration (site : Site) : Declaration :=
  bracketSurvey.item site

/-- The brackets of a node are found from where it begins to where it ends. -/
theorem Mention.span_of_mem_sites {mention : Mention} {position : Nat} {site : Site}
    (member : site ∈ mention.sites position) :
    site.declaration.span = ⟨position, position + mention.chars.length⟩ := by
  obtain ⟨name, bracketed⟩ := mention
  cases bracketed with
  | none => cases member
  | some bracket =>
      rw [List.mem_singleton.mp member]
      simp [Site.declaration, bracketSurvey, Site.found, Mention.chars, Bracket.chars,
        Nat.add_assoc]

/-- Nodes with brackets are found behind the place where the steps begin. -/
theorem start_of_mem_sitesFrom {steps : List Step} {position : Nat} {site : Site}
    (member : site ∈ sitesFrom position steps) : position ≤ site.declaration.span.start := by
  induction steps generalizing position with
  | nil => cases member
  | cons step steps ih =>
      rcases List.mem_append.mp member with here | later
      · rw [Mention.span_of_mem_sites here]
        exact Nat.le_trans (Nat.le_add_right _ _) (Nat.le_add_right _ _)
      · exact Nat.le_trans (Nat.le_add_right _ _) (ih later)

/-- The site of a node lies before those of the steps after it. -/
theorem pairwise_sites {mention : Mention} {position : Nat} {others : List Site}
    (later : ∀ site ∈ others, position + mention.chars.length ≤ site.declaration.span.start)
    (apart : others.Pairwise fun left right =>
      left.declaration.span.stop ≤ right.declaration.span.start) :
    (mention.sites position ++ others).Pairwise fun left right =>
      left.declaration.span.stop ≤ right.declaration.span.start := by
  rw [List.pairwise_append]
  refine ⟨?_, apart, ?_⟩
  · rw [Mention.sites]
    cases mention.bracket with
    | none => exact .nil
    | some bracket => exact List.pairwise_singleton _ _
  · intro left here right there
    rw [Mention.span_of_mem_sites here]
    exact later right there

/-- Of two nodes with brackets the later one begins where the earlier one has ended, or behind. -/
theorem pairwise_sitesFrom (position : Nat) (steps : List Step) :
    (sitesFrom position steps).Pairwise fun left right =>
      left.declaration.span.stop ≤ right.declaration.span.start := by
  induction steps generalizing position with
  | nil => exact .nil
  | cons step steps ih =>
      refine pairwise_sites ?_ (ih _)
      intro site member
      have bound := start_of_mem_sitesFrom member
      rw [step.length_chars] at bound
      omega

/-- The nodes with brackets of a chain stand one behind the other. -/
theorem Chain.pairwise_sites (links : Chain) :
    links.sites.Pairwise fun left right =>
      left.declaration.span.stop ≤ right.declaration.span.start := by
  refine Plain.pairwise_sites ?_ (pairwise_sitesFrom _ _)
  intro site member
  rw [Nat.zero_add]
  exact start_of_mem_sitesFrom member

/-! ### What is claimed -/

theorem toList_lowerForKeywords {word : List Char} (isWord : Notation.IsWord word) :
    (lowerForKeywords (String.ofList word)).toList = word.map Char.toLower := by
  have single : ∀ c ∈ word, lowerLetter c = [c.toLower] := by
    intro c member
    rw [lowerLetter, if_pos (toNat_lt_of_isAsciiWord (isWord.ascii c member))]
  rw [lowerForKeywords, String.toList_ofList, String.toList_ofList, List.flatMap_congr single,
    List.map_eq_flatMap]

/-- No id is reserved. -/
theorem Name.isReserved (name : Name) : isReserved name.id = false := by
  have small : reservedWords.map String.toList ⊆ reservedNames := by decide
  rw [Scan.isReserved, Bool.eq_false_iff]
  intro listed
  have member := List.mem_map_of_mem (f := String.toList) (List.contains_iff_mem.mp listed)
  rw [Name.id, toList_lowerForKeywords name.isWord] at member
  exact name.unreserved (small member)

theorem Site.start_lt_stop (site : Site) (shape : Shape) (body : List Char) :
    (site.found shape body).span.start < (site.found shape body).span.stop := by
  have length := site.name.length_pos
  have later : site.start < site.start + site.name.text.length +
      (shape.opening.length + body.length + shape.closing.length) := by
    omega
  exact later

/-- The survey of a chain is sound: what is searched for is at its places, and nothing else is
found. -/
theorem Chain.sound_bracketSurvey (links : Chain) :
    bracketSurvey.Sound links.sites Declaration.span fun candidate =>
      isReserved candidate.id where
  distinct := by decide
  known := fun site _ => site.bracket.known
  later := by decide
  accepted := fun site _ => site.name.isReserved
  apart := links.pairwise_sites
  shaded := by
    intro shape site _ _
    have shade := site.start_lt_stop shape site.bracket.shadeBody
    have item := site.start_lt_stop site.bracket.shape site.bracket.text.text
    rw [Span.overlaps, Bool.and_eq_true]
    exact ⟨decide_eq_true item, decide_eq_true shade⟩

/-- The nodes with brackets that are found in a chain. -/
theorem Chain.declarations_chars (links : Chain) :
    declarations links.chars = links.sites.map Site.declaration := by
  have candidates : (bracketShapes.flatMap fun shape =>
      declarationsOf shape (maskPipeLabels links.chars)) = bracketSurvey.candidates links.sites :=
    List.flatMap_congr fun shape listed => links.declarationsOf_chars listed
  have increasing : links.sites.Pairwise fun left right =>
      left.declaration.span.start < right.declaration.span.start :=
    links.pairwise_sites.imp fun {left} {right} apart =>
      Nat.lt_of_lt_of_le (left.start_lt_stop _ _) apart
  have sorted := Survey.mergeSort_claimed links.sound_bracketSurvey
    (fun declaration => declaration.span.start) increasing
  rw [declarations]
  simp only [candidates, claim_eq]
  exact sorted

/-! ### The line without brackets -/

def Step.bare (step : Step) : List Char :=
  [' '] ++ step.tie.chars ++ [' '] ++ step.target.name.text

/-- A chain in which all nodes are bare ids. -/
def Chain.bare (links : Chain) : List Char :=
  links.first.name.text ++ links.steps.flatMap Step.bare

/-- What stands before the nodes with brackets is kept. -/
theorem collapse_append {front : List Char} {position : Nat} {found : List Declaration}
    (later : ∀ declaration ∈ found, position + front.length ≤ declaration.span.start)
    (proper : ∀ declaration ∈ found, declaration.span.start < declaration.span.stop)
    (rest : List Char) :
    collapse position (front ++ rest) found =
      front ++ collapse (position + front.length) rest found := by
  cases found with
  | nil => rfl
  | cons declaration found =>
      have bound := later declaration List.mem_cons_self
      have inside := proper declaration List.mem_cons_self
      have start : declaration.span.start - position =
          front.length + (declaration.span.start - (position + front.length)) := by
        omega
      have stop : declaration.span.stop - position =
          front.length + (declaration.span.stop - (position + front.length)) := by
        omega
      rw [collapse, collapse, start, stop, List.take_length_add_append,
        List.drop_length_add_append, List.append_assoc, List.append_assoc, List.append_assoc]

/-- Places behind a text leave the text alone when they are collapsed. -/
theorem collapse_sites {front : List Char} {position : Nat} {sites : List Site}
    (later : ∀ site ∈ sites, position + front.length ≤ site.declaration.span.start)
    (rest : List Char) :
    collapse position (front ++ rest) (sites.map Site.declaration) =
      front ++ collapse (position + front.length) rest (sites.map Site.declaration) := by
  apply collapse_append
  · exact List.forall_mem_map.mpr later
  · exact List.forall_mem_map.mpr fun site _ => site.start_lt_stop _ _

/-- A node with brackets is replaced by its id, and another is kept. -/
theorem Mention.collapse_chars (mention : Mention) {position : Nat} {sites : List Site}
    (later : ∀ site ∈ sites, position + mention.chars.length ≤ site.declaration.span.start)
    (rest : List Char) :
    collapse position (mention.chars ++ rest)
        ((mention.sites position ++ sites).map Site.declaration) =
      mention.name.text ++
        collapse (position + mention.chars.length) rest (sites.map Site.declaration) := by
  cases bracketed : mention.bracket with
  | none =>
      have chars : mention.chars = mention.name.text := by simp [Mention.chars, bracketed]
      rw [chars] at later ⊢
      have sites_eq : mention.sites position = [] := by simp [Mention.sites, bracketed]
      rw [sites_eq, List.nil_append]
      exact collapse_sites later rest
  | some bracket =>
      have sites_eq : mention.sites position = [⟨position, mention.name, bracket⟩] := by
        simp [Mention.sites, bracketed]
      have span : (Site.declaration ⟨position, mention.name, bracket⟩).span =
          ⟨position, position + mention.chars.length⟩ :=
        Mention.span_of_mem_sites (by simp [sites_eq])
      have id : (Site.declaration ⟨position, mention.name, bracket⟩).id.toList =
          mention.name.text := String.toList_ofList
      rw [sites_eq, List.singleton_append, List.map_cons, collapse, span, id]
      simp

/-- Collapsing leaves the bare names of the nodes between the connectors. -/
theorem collapse_steps (position : Nat) (steps : List Step) :
    collapse position (steps.flatMap Step.chars) ((sitesFrom position steps).map Site.declaration) =
      steps.flatMap Step.bare := by
  induction steps generalizing position with
  | nil => rfl
  | cons step steps ih =>
      have stop : position + ([' '] ++ step.tie.chars ++ [' ']).length =
          position + step.tie.chars.length + 2 := by
        simp only [List.length_append, List.length_singleton]
        omega
      have behind : position + step.tie.chars.length + 2 + step.target.chars.length =
          position + step.chars.length := by
        rw [step.length_chars]
        omega
      have rest : ∀ site ∈ sitesFrom (position + step.chars.length) steps,
          position + step.tie.chars.length + 2 + step.target.chars.length ≤
            site.declaration.span.start := by
        intro site member
        rw [behind]
        exact start_of_mem_sitesFrom member
      have later : ∀ site ∈ sitesFrom position (step :: steps),
          position + ([' '] ++ step.tie.chars ++ [' ']).length ≤ site.declaration.span.start := by
        intro site member
        rw [stop]
        rcases List.mem_append.mp member with here | there
        · rw [Mention.span_of_mem_sites here]
        · exact Nat.le_trans (Nat.le_add_right _ _) (rest site there)
      have text : (step :: steps).flatMap Step.chars = ([' '] ++ step.tie.chars ++ [' ']) ++
          (step.target.chars ++ steps.flatMap Step.chars) := by
        simp [Step.chars]
      have target := step.target.collapse_chars rest (steps.flatMap Step.chars)
      rw [behind, ih] at target
      rw [text, collapse_sites later, stop, sitesFrom, target, List.flatMap_cons, Step.bare]
      simp only [List.append_assoc]

/-- What is left of a chain are the bare ids and the links. -/
theorem Chain.collapse_chars (links : Chain) :
    collapse 0 links.chars (declarations links.chars) = links.bare := by
  have later : ∀ site ∈ sitesFrom links.first.chars.length links.steps,
      0 + links.first.chars.length ≤ site.declaration.span.start := by
    intro site member
    rw [Nat.zero_add]
    exact start_of_mem_sitesFrom member
  have first := links.first.collapse_chars later (links.steps.flatMap Step.chars)
  rw [Nat.zero_add, collapse_steps] at first
  rw [links.declarations_chars]
  exact first

end Flowchart.Plain
