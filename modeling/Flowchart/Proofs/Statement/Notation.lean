import Flowchart.Proofs.Text.Trim
import Flowchart.Statement.Reader

/-!
How chains of links are written.

The relations of this module connect a part of a statement with the texts that stand for it. They
leave the choice of blanks, of quotes and of the place of a label free, and are the inverse side of
reading: what they relate is read back by `Statement.ofLine?`.

Main definition: `EdgesText`.
-/

namespace Flowchart.Notation

open Flowchart.Text
open Flowchart.Statement (ignoredWords)

/-! ### Words -/

/-- A nonempty run of letters, digits and underscores of ASCII. -/
structure IsWord (text : List Char) : Prop where
  nonempty : text ≠ []
  ascii : ∀ c ∈ text, isAsciiWord c = true

instance (word : List Char) : Decidable (IsWord word) :=
  decidable_of_iff (word ≠ [] ∧ word.all isAsciiWord = true)
    ⟨fun isWord => ⟨isWord.1, List.all_eq_true.mp isWord.2⟩,
      fun isWord => ⟨isWord.nonempty, List.all_eq_true.mpr isWord.ascii⟩⟩

/-- Words joined by single hyphens. -/
inductive IsIdentifier : List Char → Prop where
  | word {word : List Char} : IsWord word → IsIdentifier word
  | joined {word rest : List Char} :
      IsWord word → IsIdentifier rest → IsIdentifier (word ++ '-' :: rest)

/-- Two words with a hyphen between them are an identifier. -/
theorem IsIdentifier.hyphened {first second : List Char} (isFirst : IsWord first)
    (isSecond : IsWord second) : IsIdentifier (first ++ '-' :: second) :=
  .joined isFirst (.word isSecond)

/-- The word at the front of a text is no word that starts another kind of statement: none of the
keywords of declarations and blocks in any case, and none of the ignored words. -/
def KeywordFree (text : List Char) : Prop :=
  (text.takeWhile isAsciiWord).map Char.toLower ∉
      ["flowchart", "graph", "subgraph"].map String.toList ∧
    text.takeWhile isAsciiWord ∉ ignoredWords.map String.toList

instance (text : List Char) : Decidable (KeywordFree text) :=
  inferInstanceAs (Decidable (_ ∧ _))

/-! ### Nodes -/

/-- The characters that a bare text between brackets must not hold. -/
def bracketMarks : List Char :=
  "\"[]()\x7b\x7d<>|\n".toList

/-- A text between brackets. Bare, it holds no quote, bracket, angle, pipe or line end; in quotes,
only these and line ends are excluded. Blanks around it do not count. They may also stand around the
quotes, if some stand before the opening quote and the text holds no closing bracket. -/
inductive BodyText (text : List Char) : List Char → Prop where
  | bare {left right : List Char} : Gap left → Gap right →
      (∀ c ∈ text, c ∉ bracketMarks) → BodyText text (left ++ text ++ right)
  | quoted {left right : List Char} : Gap left → Gap right →
      (∀ c ∈ text, c ≠ '"' ∧ c ≠ '\n') → BodyText text ('"' :: (left ++ text ++ right ++ ['"']))
  | loose {before left right after : List Char} : before ≠ [] → Gap before → Gap left → Gap right →
      Gap after → (∀ c ∈ text, c ≠ '"' ∧ c ≠ '\n' ∧ c ∉ ")]\x7d".toList) →
      BodyText text (before ++ '"' :: (left ++ text ++ right ++ ['"']) ++ after)

/-- A node: its id, and its text in the brackets of its shape if it has one. -/
inductive RefText : NodeRef → List Char → Prop where
  | plain {id : List Char} : IsIdentifier id → RefText ⟨String.ofList id, none⟩ id
  | shaped {id gap text body : List Char} (shape : Shape) :
      IsIdentifier id → Gap gap → IsTrimmed text → BodyText text body →
      RefText ⟨String.ofList id, some (shape, String.ofList text)⟩
        (id ++ gap ++ (shape.opening ++ body ++ shape.closing))

/-- Nodes joined by ampersands. -/
inductive GroupText : List NodeRef → List Char → Prop where
  | one {ref : NodeRef} {text : List Char} : RefText ref text → GroupText [ref] text
  | more {ref : NodeRef} {refs : List NodeRef} {text before after rest : List Char} :
      RefText ref text → Gap before → Gap after → GroupText refs rest →
      GroupText (ref :: refs) (text ++ before ++ '&' :: (after ++ rest))

/-! ### Links -/

/-- A link without a text inside. -/
def plainLink : Stroke → Bool → List Char
  | .normal, true => "-->".toList
  | .normal, false => "---".toList
  | .dotted, true => "-.->".toList
  | .dotted, false => "-.-".toList
  | .thick, true => "==>".toList
  | .thick, false => "===".toList

/-- The part of a link before the text inside it. -/
def linkOpening : Stroke → List Char
  | .normal => "--".toList
  | .dotted => "-.".toList
  | .thick => "==".toList

/-- The part of a link after the text inside it. -/
def linkClosing : Stroke → Bool → List Char
  | .normal, true => "-->".toList
  | .normal, false => "---".toList
  | .dotted, true => ".->".toList
  | .dotted, false => ".-".toList
  | .thick, true => "==>".toList
  | .thick, false => "===".toList

/-- A text that can stand inside a link: it holds no hyphen, equals sign or pipe, and does not
start with a point or an angle, which would belong to the link before it. -/
structure IsInnerText (text : List Char) : Prop extends IsTrimmed text where
  free : ∀ c ∈ text, c ≠ '-' ∧ c ≠ '=' ∧ c ≠ '|'
  start : ∀ c ∈ text.head?, c ≠ '.' ∧ c ≠ '>'

/-- A link: alone, with a label between pipes, or around a text. A point at the end of that text
must not touch the hyphens that close a normal link, with which it would close a dotted one. -/
inductive LinkText : Link → List Char → Prop where
  | plain (stroke : Stroke) (directed : Bool) :
      LinkText ⟨stroke, directed, none⟩ (plainLink stroke directed)
  | piped (stroke : Stroke) (directed : Bool) {gap left label right : List Char} :
      Gap gap → Gap left → Gap right → IsTrimmed label → (∀ c ∈ label, c ≠ '|' ∧ c ≠ '\n') →
      LinkText ⟨stroke, directed, some (String.ofList label)⟩
        (plainLink stroke directed ++ gap ++ '|' :: (left ++ label ++ right ++ ['|']))
  | inner (stroke : Stroke) (directed : Bool) {left text right : List Char} :
      Gap left → Gap right → IsInnerText text →
      (stroke = .normal → right = [] → ∀ c ∈ text.getLast?, c ≠ '.') →
      LinkText ⟨stroke, directed, some (String.ofList text)⟩
        (linkOpening stroke ++ left ++ (text ++ right ++ linkClosing stroke directed))

/-! ### Chains -/

/-- Links, each with the group of nodes it leads to. -/
inductive HopsText : List Hop → List Char → Prop where
  | nil : HopsText [] []
  | cons {link : Link} {targets : List NodeRef} {hops : List Hop}
      {before linkText after group rest : List Char} :
      Gap before → LinkText link linkText → Gap after → GroupText targets group →
      HopsText hops rest →
      HopsText (⟨link, targets⟩ :: hops) (before ++ linkText ++ (after ++ group ++ rest))

/-- The end of a line: blanks, and possibly a semicolon among them. -/
inductive LineEnd : List Char → Prop where
  | blank {gap : List Char} : Gap gap → LineEnd gap
  | semicolon {before after : List Char} :
      Gap before → Gap after → LineEnd (before ++ ';' :: after)

/-- A chain of at least one link from a first group of nodes, on a line of its own. -/
inductive EdgesText (first : List NodeRef) (hops : List Hop) : List Char → Prop where
  | line {lead group chain trail : List Char} :
      Gap lead → GroupText first group → hops ≠ [] → HopsText hops chain → LineEnd trail →
      EdgesText first hops (lead ++ (group ++ (chain ++ trail)))

end Flowchart.Notation
