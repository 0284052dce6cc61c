import Flowchart.Draft.Basic
import Flowchart.Proofs.Statement.Notation

/-!
Plain diagrams: the part of the language that both readers of diagrams understand.

A plain diagram declares a direction and consists of chains of links, some of them in blocks that
are not nested. Its ids are ASCII words that are no keywords, its texts are words of letters and
digits with single spaces between them, and it is written with one space between a node and a link.

Main definitions: `Plain.Diagram`, `Plain.Diagram.text`, `Plain.Diagram.Admissible`.
-/

namespace Flowchart.Plain

open Flowchart.Text

/-! ### Words and texts -/

/-- The words that are no ids, in small letters. -/
def reservedNames : List (List Char) :=
  ["end", "subgraph", "flowchart", "graph", "classdef", "class", "style", "linkstyle", "click",
    "direction"].map String.toList

/-- An id: an ASCII word that is reserved in no case. -/
structure Name where
  text : List Char
  isWord : Notation.IsWord text
  unreserved : text.map Char.toLower ∉ reservedNames

/-- The id as a string. -/
def Name.id (name : Name) : String :=
  String.ofList name.text

/-- Words of ASCII letters and digits, separated by single spaces. -/
inductive IsPhrase : List Char → Prop where
  | word {word : List Char} : word ≠ [] → (∀ c ∈ word, c.isAlphanum = true) → IsPhrase word
  | joined {word rest : List Char} : word ≠ [] → (∀ c ∈ word, c.isAlphanum = true) →
      IsPhrase rest → IsPhrase (word ++ ' ' :: rest)

/-- A text that stands for itself wherever it is written. -/
structure Phrase where
  text : List Char
  isPhrase : IsPhrase text

/-! ### Nodes -/

/-- The shapes that both readers know. -/
def shapes : List Shape :=
  [.cylinder, .stadium, .circle, .subroutine, .square, .round, .diamond]

/-- Brackets around a text. -/
structure Bracket where
  shape : Shape
  text : Phrase
  known : shape ∈ shapes

def Bracket.chars (bracket : Bracket) : List Char :=
  bracket.shape.opening ++ bracket.text.text ++ bracket.shape.closing

/-- A node of a chain: an id, with brackets directly after it or without. -/
structure Mention where
  name : Name
  bracket : Option Bracket

def Mention.chars (mention : Mention) : List Char :=
  mention.name.text ++ (mention.bracket.map Bracket.chars).getD []

/-- The mention as the strict reader finds it. -/
def Mention.ref (mention : Mention) : NodeRef :=
  ⟨mention.name.id, mention.bracket.map fun bracket =>
    (bracket.shape, String.ofList bracket.text.text)⟩

/-! ### Links -/

/-- The links that both readers know. -/
inductive Tie where
  | arrow
  | dotted
  | thick
  | line
  | labeledArrow (label : Phrase)
  | labeledDotted (label : Phrase)
  | textArrow (text : Phrase)

def Tie.chars : Tie → List Char
  | arrow => "-->".toList
  | dotted => "-.->".toList
  | thick => "==>".toList
  | line => "---".toList
  | labeledArrow label => "-->|".toList ++ label.text ++ "|".toList
  | labeledDotted label => "-.->|".toList ++ label.text ++ "|".toList
  | textArrow text => "-- ".toList ++ text.text ++ " -->".toList

/-- An arrow with a label is written with the label between pipes behind it. -/
theorem Tie.chars_labeledArrow (label : Phrase) :
    (labeledArrow label).chars = "-->".toList ++ '|' :: (label.text ++ ['|']) :=
  rfl

theorem Tie.chars_labeledDotted (label : Phrase) :
    (labeledDotted label).chars = "-.->".toList ++ '|' :: (label.text ++ ['|']) :=
  rfl

/-- An arrow with a text is written with the text between its two halves. -/
theorem Tie.chars_textArrow (text : Phrase) :
    (textArrow text).chars = "--".toList ++ ' ' :: (text.text ++ ' ' :: "-->".toList) :=
  rfl

/-- How the line of a link is drawn. -/
def Tie.stroke : Tie → Stroke
  | arrow | line | labeledArrow _ | textArrow _ => .normal
  | dotted | labeledDotted _ => .dotted
  | thick => .thick

/-- Whether a link has a head. -/
def Tie.directed : Tie → Bool
  | line => false
  | _ => true

/-- The text at a link. -/
def Tie.label : Tie → Option Phrase
  | labeledArrow label | labeledDotted label | textArrow label => some label
  | _ => none

/-! ### Chains and blocks -/

/-- A link of a chain and the node it leads to. -/
structure Step where
  tie : Tie
  target : Mention

/-- Nodes in a row, with a link between each and the next. -/
structure Chain where
  first : Mention
  steps : List Step
  linked : steps ≠ []

/-- A link and its node, with the space before either. -/
def Step.chars (step : Step) : List Char :=
  ' ' :: (step.tie.chars ++ ' ' :: step.target.chars)

def Chain.chars (chain : Chain) : List Char :=
  chain.first.chars ++ chain.steps.flatMap Step.chars

/-- The nodes of a chain, from left to right. -/
def Chain.mentions (chain : Chain) : List Mention :=
  chain.first :: chain.steps.map Step.target

/-- The arcs along a chain, from the node before each link to the one after it. -/
def arcsFrom (source : Mention) : List Step → List Arc
  | [] => []
  | step :: steps =>
    ⟨source.name.id, step.target.name.id, step.tie.label.map fun label => String.ofList label.text,
      step.tie.stroke.name, step.tie.directed⟩ :: arcsFrom step.target steps

/-- The arcs of a chain. -/
def Chain.arcs (chain : Chain) : List Arc :=
  arcsFrom chain.first chain.steps

/-- A chain outside all blocks, or a block with its chains. -/
inductive Item where
  | chain (links : Chain)
  | block (name : Name) (title : Option Phrase) (chains : List Chain)

/-- The title of a block in square brackets, if it has one. -/
def titleChars : Option Phrase → List Char
  | none => []
  | some title => ' ' :: '[' :: (title.text ++ [']'])

/-- The line that opens a block. -/
def openingLine (name : Name) (title : Option Phrase) : List Char :=
  "subgraph".toList ++ ' ' :: (name.text ++ titleChars title)

/-- The line of an opening is the keyword, the name and the title. -/
theorem openingLine_eq (name : Name) (title : Option Phrase) :
    openingLine name title = "subgraph".toList ++ ' ' :: (name.text ++ titleChars title) :=
  rfl

def Item.lines : Item → List (List Char)
  | chain links => [links.chars]
  | block name title chains =>
    openingLine name title :: (chains.map Chain.chars ++ ["end".toList])

/-- The chains of an item. -/
def Item.chains : Item → List Chain
  | chain links => [links]
  | block _ _ chains => chains

/-- The block that an item opens: its id and title. -/
def Item.opening? : Item → Option (Name × Option Phrase)
  | chain _ => none
  | block name title _ => some (name, title)

/-! ### Diagrams -/

/-- A diagram of the common language. -/
structure Diagram where
  keyword : String
  direction : String
  items : List Item
  declares : keyword ∈ ["flowchart", "graph"]
  directs : direction ∈ Statement.directionWords

namespace Diagram

/-- The lines of a diagram, its declaration first. -/
def lines (diagram : Diagram) : List (List Char) :=
  (diagram.keyword.toList ++ ' ' :: diagram.direction.toList) ::
    diagram.items.flatMap Item.lines

/-- The source of a diagram. -/
def text (diagram : Diagram) : String :=
  String.ofList (['\n'].intercalate diagram.lines)

/-- The ids of the blocks. -/
def blockIds (diagram : Diagram) : List String :=
  (diagram.items.filterMap Item.opening?).map fun opening => opening.1.id

end Diagram

/-- The nodes of items, in order, each with the number of the block it stands in. The blocks are
counted from a given number. -/
def placedFrom : Nat → List Item → List (Option Nat × Mention)
  | _, [] => []
  | number, .chain links :: items =>
    links.mentions.map (fun mention => (none, mention)) ++ placedFrom number items
  | number, .block _ _ chains :: items =>
    (chains.flatMap Chain.mentions).map (fun mention => (some number, mention)) ++
      placedFrom (number + 1) items

/-- The nodes of a diagram, in order, each with the number of the block it stands in. -/
def Diagram.placed (diagram : Diagram) : List (Option Nat × Mention) :=
  placedFrom 0 diagram.items

/-- The conditions under which both readers find the same: brackets stand only where their id is
mentioned first, and an id that is first mentioned outside all blocks is not mentioned inside one
later, unless it is the id of a block itself. -/
structure Diagram.Admissible (diagram : Diagram) : Prop where
  brackets : diagram.placed.Pairwise fun earlier later =>
    earlier.2.name.id = later.2.name.id → later.2.bracket = none
  inside : diagram.placed.Pairwise fun earlier later =>
    earlier.2.name.id = later.2.name.id → earlier.2.name.id ∉ diagram.blockIds →
      earlier.1 = none → later.1 = none

instance (mention : Mention) : Decidable (mention.bracket = none) :=
  decidable_of_iff (mention.bracket.isNone = true) Option.isNone_iff_eq_none

instance (diagram : Diagram) : Decidable diagram.Admissible :=
  decidable_of_iff
    ((diagram.placed.Pairwise fun earlier later =>
        earlier.2.name.id = later.2.name.id → later.2.bracket = none) ∧
      diagram.placed.Pairwise fun earlier later =>
        earlier.2.name.id = later.2.name.id → earlier.2.name.id ∉ diagram.blockIds →
          earlier.1 = none → later.1 = none)
    ⟨fun both => ⟨both.1, both.2⟩, fun admissible => ⟨admissible.brackets, admissible.inside⟩⟩

end Flowchart.Plain
