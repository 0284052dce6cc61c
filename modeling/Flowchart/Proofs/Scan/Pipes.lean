import Flowchart.Proofs.Scan.Squares
import Flowchart.Proofs.Source.Insertion

/-!
Pipes in square brackets.

The forgiving reader blanks out labels between pipes before it looks for brackets. It pairs the
pipes from left to right and does not ask what stands around them: two pipes in one text are taken
for a label, and a pipe that the first text of a line leaves open is paired with one in the second
text, so that the brackets between them are not seen.

Main definitions: `Paired`, `Straddles`. Main statement: `scan_captions`.
-/

namespace Flowchart.Scan

open Flowchart.Text Flowchart.Notation Flowchart.Plain
open Flowchart.Source (trim_isInfix)

/-! ### Pairs of pipes -/

/-- Texts in which the pipes stand in pairs, with a label between the two of a pair. -/
inductive Paired : List Char → Prop where
  | free {text : List Char} : '|' ∉ text → Paired text
  | label {front label rest : List Char} : '|' ∉ front → '|' ∉ label → Paired rest →
      Paired (front ++ '|' :: (label ++ '|' :: rest))

/-- The pipes of a text stand in pairs, or the last one is left over. -/
theorem paired_or_open (text : List Char) :
    Paired text ∨
      ∃ front last, text = front ++ '|' :: last ∧ Paired front ∧ '|' ∉ last := by
  -- Two pipes are taken off at a time, as the search does it.
  by_cases opened : '|' ∈ text
  · obtain ⟨front, rest, rfl, frontFree⟩ := List.eq_append_cons_of_mem opened
    by_cases closed : '|' ∈ rest
    · obtain ⟨label, rest, rfl, labelFree⟩ := List.eq_append_cons_of_mem closed
      rcases paired_or_open rest with paired | ⟨inner, last, rfl, paired, lastFree⟩
      · exact .inl (.label frontFree labelFree paired)
      · exact .inr ⟨front ++ '|' :: (label ++ '|' :: inner), last, by simp,
          .label frontFree labelFree paired, lastFree⟩
    · exact .inr ⟨front, rest, rfl, .free frontFree, closed⟩
  · exact .inl (.free opened)
termination_by text.length

theorem pipe_notMem_word {word : List Char} (isWord : IsWord word) : '|' ∉ word :=
  fun member => ne_of_isMark (isWord.ascii '|' member) (by decide) rfl

section Paired

variable {text front last : List Char}

theorem Paired.count (paired : Paired text) : text.count '|' % 2 = 0 := by
  induction paired with
  | free free => rw [List.count_eq_zero.mpr free]
  | label frontFree labelFree _ ih =>
      rw [List.count_append, List.count_cons_self, List.count_append, List.count_cons_self,
        List.count_eq_zero.mpr frontFree, List.count_eq_zero.mpr labelFree]
      omega

/-- What follows pairs of pipes is masked by itself. -/
theorem Paired.maskPipeLabels_append (paired : Paired text) (rest : List Char) :
    maskPipeLabels (text ++ rest) = maskPipeLabels text ++ maskPipeLabels rest := by
  induction paired with
  | free free =>
      rw [Plain.maskPipeLabels_append (List.forall_mem_ne'.mpr free),
        maskPipeLabels_of_free (List.forall_mem_ne'.mpr free)]
  | @label front label inner frontFree labelFree _ ih =>
      have spelled : front ++ '|' :: (label ++ '|' :: inner) ++ rest =
          front ++ '|' :: (label ++ '|' :: (inner ++ rest)) := by
        simp
      rw [spelled, maskPipeLabels_labeled (List.forall_mem_ne'.mpr frontFree) labelFree,
        maskPipeLabels_labeled (List.forall_mem_ne'.mpr frontFree) labelFree, ih]
      simp

/-- Pairs of pipes leave nothing but blanks: no pipe, nothing new, and not a character more or
less. -/
theorem Paired.masked (paired : Paired text) :
    (maskPipeLabels text).length = text.length ∧ '|' ∉ maskPipeLabels text ∧
      ∀ c ∈ maskPipeLabels text, c ∈ text ∨ c = ' ' := by
  induction paired with
  | free free =>
      rw [maskPipeLabels_of_free (List.forall_mem_ne'.mpr free)]
      exact ⟨rfl, free, fun c member => Or.inl member⟩
  | @label front label inner frontFree labelFree _ ih =>
      obtain ⟨length, pipeFree, among⟩ := ih
      rw [maskPipeLabels_labeled (List.forall_mem_ne'.mpr frontFree) labelFree]
      refine ⟨?_, ?_, ?_⟩
      · simp only [List.length_append, List.length_cons, List.length_replicate, length]
        omega
      · simp [frontFree, pipeFree]
      · intro c member
        simp only [List.mem_append, List.mem_replicate] at member
        rcases member with (inFront | ⟨_, blank⟩) | inRest
        · exact Or.inl (by simp [inFront])
        · exact Or.inr blank
        · exact (among c inRest).imp_left fun inside => by simp [inside]

/-- A pipe without a partner stays. -/
theorem maskPipeLabels_open (free : '|' ∉ last) :
    maskPipeLabels ('|' :: last) = '|' :: last := by
  have unread : afterFirst ['|'] last = none := by
    rw [afterFirst_eq_none_iff (by simp), absent_iff_not_isInfix (by simp)]
    exact fun inside => free (inside.subset List.mem_cons_self)
  have rest := maskPipeLabels_of_free (List.forall_mem_ne'.mpr free)
  rw [maskPipeLabels, replaceAllWith, afterPipeLabel, unread]
  exact congrArg ('|' :: ·) rest

theorem Paired.maskPipeLabels_open (paired : Paired front) (free : '|' ∉ last) :
    maskPipeLabels (front ++ '|' :: last) = maskPipeLabels front ++ '|' :: last := by
  rw [paired.maskPipeLabels_append, Scan.maskPipeLabels_open free]

end Paired

/-! ### Masked texts -/

section Masked

variable {text rest : List Char}

/-- What follows without a pipe is not masked. -/
theorem maskPipeLabels_append_free (free : '|' ∉ rest) (text : List Char) :
    maskPipeLabels (text ++ rest) = maskPipeLabels text ++ rest := by
  rcases paired_or_open text with paired | ⟨front, last, rfl, paired, lastFree⟩
  · rw [paired.maskPipeLabels_append, maskPipeLabels_of_free (List.forall_mem_ne'.mpr free)]
  · have behind : '|' ∉ last ++ rest := by simp [lastFree, free]
    rw [List.append_assoc, List.cons_append, paired.maskPipeLabels_open behind,
      paired.maskPipeLabels_open lastFree, List.append_assoc, List.cons_append]

theorem length_maskPipeLabels (text : List Char) :
    (maskPipeLabels text).length = text.length := by
  rcases paired_or_open text with paired | ⟨front, last, rfl, paired, lastFree⟩
  · exact paired.masked.1
  · rw [paired.maskPipeLabels_open lastFree, List.length_append, List.length_append,
      paired.masked.1]

theorem mem_maskPipeLabels {c : Char} (member : c ∈ maskPipeLabels text) : c ∈ text ∨ c = ' ' := by
  rcases paired_or_open text with paired | ⟨front, last, rfl, paired, lastFree⟩
  · exact paired.masked.2.2 c member
  · rw [paired.maskPipeLabels_open lastFree, List.mem_append] at member
    rcases member with inFront | inLast
    · exact (paired.masked.2.2 c inFront).imp_left (List.mem_append_left _)
    · exact Or.inl (List.mem_append_right _ inLast)

/-- What holds for a blank and for all of a text holds for all of the masked text. -/
theorem forall_maskPipeLabels {property : Char → Prop} (blank : property ' ')
    (inside : ∀ c ∈ text, property c) : ∀ c ∈ maskPipeLabels text, property c := by
  intro c member
  rcases mem_maskPipeLabels member with inText | rfl
  · exact inside c inText
  · exact blank

/-- At most one pipe is left. -/
theorem count_maskPipeLabels_le (text : List Char) : (maskPipeLabels text).count '|' ≤ 1 := by
  rcases paired_or_open text with paired | ⟨front, last, rfl, paired, lastFree⟩
  · rw [List.count_eq_zero.mpr paired.masked.2.1]
    exact Nat.zero_le 1
  · rw [paired.maskPipeLabels_open lastFree, List.count_append, List.count_cons_self,
      List.count_eq_zero.mpr paired.masked.2.1, List.count_eq_zero.mpr lastFree]

/-- A single pipe is not masked. -/
theorem maskPipeLabels_of_count_le (few : text.count '|' ≤ 1) : maskPipeLabels text = text := by
  rcases paired_or_open text with paired | ⟨front, last, rfl, paired, lastFree⟩
  · have even := paired.count
    have free : '|' ∉ text := List.count_eq_zero.mp (by omega)
    exact maskPipeLabels_of_free (List.forall_mem_ne'.mpr free)
  · rw [List.count_append, List.count_cons_self] at few
    have free : '|' ∉ front := List.count_eq_zero.mp (by omega)
    rw [paired.maskPipeLabels_open lastFree, maskPipeLabels_of_free (List.forall_mem_ne'.mpr free)]

/-- A text comes out as it was written exactly if it holds one pipe at most. -/
theorem trim_maskPipeLabels_eq_iff (trimmed : IsTrimmed text) :
    trim (maskPipeLabels text) = text ↔ text.count '|' ≤ 1 := by
  constructor
  · intro same
    have fewer : (trim (maskPipeLabels text)).count '|' ≤ (maskPipeLabels text).count '|' :=
      (trim_isInfix _).sublist.count_le '|'
    rw [same] at fewer
    exact fewer.trans (count_maskPipeLabels_le text)
  · intro few
    rw [maskPipeLabels_of_count_le few, trim_of_isTrimmed trimmed]

end Masked

/-! ### Lines with pipes in their brackets -/

/-- A text that may be written in square brackets: words, blanks and pipes, and no blank around
them. -/
structure IsCaption (text : List Char) : Prop extends IsTrimmed text, IsBody text

instance (text : List Char) : Decidable (IsCaption text) :=
  decidable_of_iff ((text ≠ [] ∧ trim text = text) ∧
      text.all (fun c => isAsciiWord c || (c = ' ' || c = '|')) = true)
    ⟨fun read => ⟨isTrimmed_iff.mpr read.1, by simpa using read.2⟩,
      fun isCaption => ⟨isTrimmed_iff.mp isCaption.toIsTrimmed, by simpa using isCaption.chars⟩⟩

/-- The first text leaves a pipe open, and the second one holds its partner. -/
def Straddles (first second : List Char) : Prop :=
  first.count '|' % 2 = 1 ∧ '|' ∈ second

instance (first second : List Char) : Decidable (Straddles first second) :=
  inferInstanceAs (Decidable (_ ∧ _))

theorem isBody_maskPipeLabels {text : List Char} (isBody : IsBody text) :
    IsBody (maskPipeLabels text) where
  nonempty := by
    have visible := List.length_pos_iff.mpr isBody.nonempty
    rw [← length_maskPipeLabels text] at visible
    exact List.length_pos_iff.mp visible
  chars := forall_maskPipeLabels (by simp) isBody.chars

section Lines

variable {source target first second : List Char}

/-- If no pipe is paired with one in other brackets, each text is masked by itself. -/
theorem maskPipeLabels_squareLine_apart (isSource : IsWord source) (isTarget : IsWord target)
    (apart : ¬Straddles first second) :
    maskPipeLabels (squareLine source first target second) =
      squareLine source (maskPipeLabels first) target (maskPipeLabels second) := by
  have sourceFree : '|' ∉ source ++ ['['] := by
    simp [pipe_notMem_word isSource]
  have between : '|' ∉ "] --> ".toList ++ target ++ ['['] := by
    simp [pipe_notMem_word isTarget]
  have closing : '|' ∉ [']'] := by decide
  have spelled (left right : List Char) : squareLine source left target right =
      source ++ ['['] ++ (left ++ ("] --> ".toList ++ target ++ ['['] ++ (right ++ [']']))) := by
    simp [squareLine, squareNode]
  rw [spelled, spelled, Plain.maskPipeLabels_append (List.forall_mem_ne'.mpr sourceFree)]
  congr 1
  -- Either nothing after the first text can close a pipe, or the first text leaves none open.
  by_cases closed : '|' ∈ second
  · rcases paired_or_open first with paired | ⟨front, last, rfl, paired, lastFree⟩
    · rw [paired.maskPipeLabels_append,
        Plain.maskPipeLabels_append (List.forall_mem_ne'.mpr between),
        maskPipeLabels_append_free closing]
    · have even := paired.count
      have odd : (front ++ '|' :: last).count '|' % 2 = 1 := by
        rw [List.count_append, List.count_cons_self, List.count_eq_zero.mpr lastFree]
        omega
      exact absurd ⟨odd, closed⟩ apart
  · have behind : '|' ∉ "] --> ".toList ++ target ++ ['['] ++ (second ++ [']']) := by
      simp only [List.mem_append, not_or] at between ⊢
      exact ⟨between, closed, closing⟩
    rw [maskPipeLabels_append_free behind, maskPipeLabels_of_free (List.forall_mem_ne'.mpr closed)]

/-- What stands in the brackets if the one that closes the first text is not seen. -/
def straddled (first target second : List Char) : List Char :=
  first ++ ("] --> ".toList ++ (target ++ '[' :: second))

/-- If a pipe is paired with one in other brackets, all up to the end of the line seems to stand in
the first brackets. -/
theorem maskPipeLabels_squareLine_straddled (isSource : IsWord source) :
    maskPipeLabels (squareLine source first target second) =
      squareNode source (maskPipeLabels (straddled first target second)) := by
  have sourceFree : '|' ∉ source ++ ['['] := by
    simp [pipe_notMem_word isSource]
  have spelled : squareLine source first target second =
      source ++ ['['] ++ (straddled first target second ++ [']']) := by
    simp [squareLine, squareNode, straddled]
  rw [spelled, Plain.maskPipeLabels_append (List.forall_mem_ne'.mpr sourceFree),
    maskPipeLabels_append_free (by decide)]
  simp [squareNode]

/-- Nothing but words, blanks and pipes is seen in such brackets. -/
theorem isBody_straddled (isFirst : IsBody first) (isTarget : IsWord target)
    (isSecond : IsBody second) (straddles : Straddles first second) :
    IsBody (maskPipeLabels (straddled first target second)) := by
  obtain ⟨odd, closed⟩ := straddles
  rcases paired_or_open first with paired | ⟨front, last, rfl, paired, lastFree⟩
  · have even := paired.count
    omega
  · -- The last pipe of the first text and the first pipe of the second enclose all that stands
    -- between the two texts.
    obtain ⟨label, rest, rfl, labelFree⟩ := List.eq_append_cons_of_mem closed
    have between : '|' ∉ last ++ ("] --> ".toList ++ (target ++ '[' :: label)) := by
      simp [lastFree, pipe_notMem_word isTarget, labelFree]
    have spelled : straddled (front ++ '|' :: last) target (label ++ '|' :: rest) =
        front ++ '|' :: ((last ++ ("] --> ".toList ++ (target ++ '[' :: label))) ++
          '|' :: rest) := by
      simp [straddled]
    have early := forall_maskPipeLabels (by simp) fun c (member : c ∈ front) =>
      isFirst.chars c (List.mem_append_left _ member)
    have late := forall_maskPipeLabels (by simp) fun c (member : c ∈ rest) =>
      isSecond.chars c (by simp [member])
    rw [spelled, paired.maskPipeLabels_append, maskPipeLabels_label between]
    constructor
    · simp
    · apply forall_append early
      apply forall_append _ late
      intro c member
      exact Or.inr (Or.inl (List.eq_of_mem_replicate member))

end Lines

/-! ### What the forgiving reader finds -/

/-- What is left of a text for the forgiving reader. -/
def seen (text : List Char) : List Char :=
  trim (maskPipeLabels text)

theorem squareVertex_word {id text : List Char} (isWord : IsWord id)
    (isBody : IsBody (maskPipeLabels text)) :
    squareVertex id (maskPipeLabels text) = captioned id (seen text) := by
  have unquoted : '"' ∉ trim (maskPipeLabels text) := by
    intro member
    have inside := (trim_isInfix _).subset member
    exact isBody.ne_of_mem inside (by decide) (by decide) rfl
  rw [squareVertex, unquoteOnce_of_notMem unquoted, (lead_word isWord).2]
  rfl

section Diagrams

variable {diagram : String} {source target first second : List Char}

/-- If no pipe is paired with one in other brackets, both nodes are found with what is left of their
texts. -/
theorem scan_apart (only : OnlyBodyLine diagram (squareLine source first target second))
    (isSource : IsWord source) (isTarget : IsWord target) (distinct : source ≠ target)
    (free : KeywordFree source)
    (accepted : ∀ id ∈ [source, target], isReserved (String.ofList id) = false)
    (foreign : ∀ id ∈ [source, target], String.ofList id ∉ (Draft.scan diagram).blockIds)
    (isFirst : IsBody first) (isSecond : IsBody second) (apart : ¬Straddles first second) :
    (Draft.scan diagram).vertices =
        [captioned source (seen first), captioned target (seen second)] ∧
      (Draft.scan diagram).arcs = [plainArc source target] := by
  have maskedFirst := isBody_maskPipeLabels isFirst
  have maskedSecond := isBody_maskPipeLabels isSecond
  have masked := maskPipeLabels_squareLine_apart isSource isTarget apart
  have acceptedSource : isReserved (String.ofList (lastWord source)) = false := by
    rw [(lead_word isSource).2]
    exact accepted source (by simp)
  have acceptedTarget : isReserved (String.ofList (lastWord target)) = false := by
    rw [(lead_word isTarget).2]
    exact accepted target (by simp)
  obtain ⟨drawn, entered⟩ := drawn_of_squareLine (.word isSource) (.word isTarget) free
    maskedFirst maskedSecond (length_maskPipeLabels first).symm
    (length_maskPipeLabels second).symm masked acceptedSource acceptedTarget
  have arc : arrowArc source target = plainArc source target := by
    rw [arrowArc, (lead_word isSource).2, firstWord_word isTarget, plainArc]
  rw [arc, squareVertex_word isSource maskedFirst, squareVertex_word isTarget maskedSecond]
    at entered
  obtain ⟨arcs, vertices⟩ := scan_of_onlyBodyLine only
  have other : String.ofList target ≠ String.ofList source :=
    mt String.ofList_inj.mp distinct.symm
  have kept := foreign source (by simp)
  have keptTarget := foreign target (by simp)
  rw [vertices, arcs, drawn, arc, entered]
  simp [firstByKey, captioned, plainArc, arcEnds, kept, keptTarget, other]

/-- If a pipe is paired with one in other brackets, only the first node is found, and no arrow. -/
theorem scan_straddled (only : OnlyBodyLine diagram (squareLine source first target second))
    (isSource : IsWord source) (isTarget : IsWord target) (free : KeywordFree source)
    (accepted : isReserved (String.ofList source) = false)
    (foreign : String.ofList source ∉ (Draft.scan diagram).blockIds)
    (isFirst : IsBody first) (isSecond : IsBody second) (straddles : Straddles first second) :
    (Draft.scan diagram).vertices =
        [captioned source (seen (straddled first target second))] ∧
      (Draft.scan diagram).arcs = [] := by
  have isBody := isBody_straddled isFirst isTarget isSecond straddles
  have masked := @maskPipeLabels_squareLine_straddled source target first second isSource
  have length := congrArg List.length masked
  rw [length_maskPipeLabels] at length
  have acceptedLast : isReserved (String.ofList (lastWord source)) = false := by
    rwa [(lead_word isSource).2]
  obtain ⟨drawn, entered⟩ := drawn_of_squareNode (.word isSource) free isBody masked length
    acceptedLast
  obtain ⟨arcs, vertices⟩ := scan_of_onlyBodyLine only
  rw [vertices, arcs, drawn, entered, squareVertex_word isSource isBody]
  simp [firstByKey, captioned, foreign]

end Diagrams

/-- An arrow between two nodes with pipes in their square brackets, in a diagram without other nodes
and links. Unless the first text leaves a pipe open that has its partner in the second, both nodes
and the arrow are found, and the texts are those that are left when each is masked by itself;
otherwise the first node is all that is found. So the line is found as it was written exactly if
there is one pipe at most. -/
theorem scan_captions {diagram : String} {source target first second : List Char}
    (only : OnlyBodyLine diagram (squareLine source first target second))
    (isSource : IsWord source) (isTarget : IsWord target) (distinct : source ≠ target)
    (free : KeywordFree source)
    (accepted : ∀ id ∈ [source, target], isReserved (String.ofList id) = false)
    (foreign : ∀ id ∈ [source, target], String.ofList id ∉ (Draft.scan diagram).blockIds)
    (isFirst : IsCaption first) (isSecond : IsCaption second) :
    (¬Straddles first second →
        (Draft.scan diagram).vertices =
            [captioned source (seen first), captioned target (seen second)] ∧
          (Draft.scan diagram).arcs = [plainArc source target]) ∧
      (Straddles first second →
        (Draft.scan diagram).vertices =
            [captioned source (seen (straddled first target second))] ∧
          (Draft.scan diagram).arcs = []) ∧
      ((Draft.scan diagram).vertices = [captioned source first, captioned target second] ∧
          (Draft.scan diagram).arcs = [plainArc source target] ↔
        first.count '|' + second.count '|' ≤ 1) := by
  have whenApart := scan_apart only isSource isTarget distinct free accepted foreign
    isFirst.toIsBody isSecond.toIsBody
  have whenStraddled := scan_straddled only isSource isTarget free (accepted source (by simp))
    (foreign source (by simp)) isFirst.toIsBody isSecond.toIsBody
  refine ⟨whenApart, whenStraddled, ?_⟩
  by_cases straddles : Straddles first second
  · obtain ⟨odd, closed⟩ := straddles
    have partner : 0 < second.count '|' := List.count_pos_iff.mpr closed
    rw [(whenStraddled ⟨odd, closed⟩).2]
    exact iff_of_false (fun found => nomatch found.2) (by omega)
  · rw [(whenApart straddles).1, (whenApart straddles).2]
    simp only [captioned, List.cons.injEq, Vertex.mk.injEq, Option.some.injEq, String.ofList_inj,
      true_and, and_true, seen, trim_maskPipeLabels_eq_iff isFirst.toIsTrimmed,
      trim_maskPipeLabels_eq_iff isSecond.toIsTrimmed]
    constructor
    · rintro ⟨few, fewSecond⟩
      by_contra more
      have closed : '|' ∈ second := List.count_pos_iff.mp (by omega)
      exact straddles ⟨by omega, closed⟩
    · omega

/-- A diagram with a pipe in each of two nodes. -/
def straddledSource : String :=
  "flowchart TD\na[x|y] --> b[z|w]"

/-- A diagram with two pipes in one node. -/
def labeledSource : String :=
  "flowchart TD\na[x|y|z] --> b[t]"

theorem onlyBodyLine_straddledSource : OnlyBodyLine straddledSource
    (squareLine ['a'] "x|y".toList ['b'] "z|w".toList) :=
  ⟨["flowchart TD".toList], [], by decide +kernel, by decide +kernel⟩

theorem onlyBodyLine_labeledSource : OnlyBodyLine labeledSource
    (squareLine ['a'] "x|y|z".toList ['b'] "t".toList) :=
  ⟨["flowchart TD".toList], [], by decide +kernel, by decide +kernel⟩

theorem blockIds_pipedSources :
    (Draft.scan straddledSource).blockIds = [] ∧ (Draft.scan labeledSource).blockIds = [] := by
  rw [blockIds_scan, blockIds_scan]
  decide +kernel

theorem scan_captions_straddledSource :
    OnlyBodyLine straddledSource (squareLine ['a'] "x|y".toList ['b'] "z|w".toList) ∧
      IsCaption "x|y".toList ∧ IsCaption "z|w".toList ∧ Straddles "x|y".toList "z|w".toList ∧
      (Draft.scan straddledSource).vertices =
        [captioned ['a'] (seen (straddled "x|y".toList ['b'] "z|w".toList))] ∧
      (Draft.scan straddledSource).arcs = [] := by
  have foreign : ∀ id ∈ [['a'], ['b']],
      String.ofList id ∉ (Draft.scan straddledSource).blockIds := by
    rw [blockIds_pipedSources.1]
    simp
  have read := scan_captions onlyBodyLine_straddledSource (by decide) (by decide) (by decide)
    (by decide) (by decide) foreign (by decide) (by decide)
  exact ⟨onlyBodyLine_straddledSource, by decide, by decide, by decide, read.2.1 (by decide)⟩

/-- What stands between two pipes is lost, and if the pipes belong to two nodes, so are the second
node and the arrow. The strict reader takes the pipes for what they are. -/
theorem scan_pipedSources :
    ((Draft.scan labeledSource).vertices =
        [⟨"a", some "x   z", some "square"⟩, ⟨"b", some "t", some "square"⟩] ∧
      (Draft.scan labeledSource).arcs = [⟨"a", "b", none, "normal", true⟩]) ∧
    ((Draft.scan straddledSource).vertices = [⟨"a", some "x            w", some "square"⟩] ∧
      (Draft.scan straddledSource).arcs = []) ∧
    Statement.ofText "a[x|y] --> b[z|w]" = .ok (some (.edges [⟨"a", some (.square, "x|y")⟩]
      [⟨⟨.normal, true, none⟩, [⟨"b", some (.square, "z|w")⟩]⟩])) := by
  have foreign : ∀ id ∈ [['a'], ['b']],
      String.ofList id ∉ (Draft.scan labeledSource).blockIds := by
    rw [blockIds_pipedSources.2]
    simp
  have caption (text : List Char) (isCaption : IsCaption text) : IsBody text :=
    isCaption.toIsBody
  have found := scan_apart onlyBodyLine_labeledSource (by decide) (by decide) (by decide)
    (by decide) (by decide) foreign (caption _ (by decide)) (caption _ (by decide)) (by decide)
  refine ⟨?_, by decide +kernel, by decide +kernel⟩
  rw [found.1, found.2]
  decide +kernel

end Flowchart.Scan
