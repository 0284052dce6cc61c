import Flowchart.Graph.Basic
import Flowchart.Text.Letter
import Flowchart.Text.Search

/-!
What nodes stand for, and what they are filtered by. Both are decided by ordered rules: the first
one that applies decides.
-/

namespace Flowchart

open Flowchart.Text

/-- Whether one of the keywords occurs in a text, in any case. -/
def mentionsAny (keywords : List String) (text : String) : Bool :=
  let lowered := (lowerForKeywords text).toList
  keywords.any fun keyword => occursIn keyword.toList lowered

/-- A condition under which a node is of a kind. -/
inductive KindRule where
  /-- The node has one of the shapes. -/
  | shape (names : List String) (kind : NodeKind)
  /-- The label holds one of the keywords. -/
  | keyword (words : List String) (kind : NodeKind)
deriving Repr, Inhabited

/-- The kind that a rule decides for, if it applies. -/
def KindRule.kind? (label : String) (shape : Option String) : KindRule → Option NodeKind
  | .shape names kind =>
    if names.contains (lowerForKeywords (shape.getD "")) then some kind else none
  | .keyword words kind => if mentionsAny words label then some kind else none

/-- The rules for node kinds: shapes before words, and the words for decisions first. -/
def kindRules : List KindRule :=
  [.shape ["cylinder", "cyl"] .database,
    .shape ["diamond", "rhombus"] .decision,
    .shape ["circle"] .start,
    .shape ["doublecircle"] .finish,
    .keyword ["review", "approve", "decision", "verify", "check", "validate", "confirm", "?"]
      .decision,
    .keyword ["start", "begin"] .start,
    .keyword ["end", "stop"] .finish,
    .keyword ["client", "user"] .client,
    .keyword ["server", "api"] .server]

/-- What a node with this label and shape stands for. -/
def classify (label : String) (shape : Option String) : NodeKind :=
  (kindRules.findSome? fun rule => rule.kind? label shape).getD .plain

/-- The words in a group's title that put its members into a category. -/
def categoryRules : List (Category × List String) :=
  [(.client, ["client", "frontend", "ui", "mobile", "web"]),
    (.server, ["server", "backend", "api", "service", "auth", "handler", "worker"]),
    (.database, ["database", "db", "store", "cache", "redis"])]

/-- The node kind that belongs to a category. -/
def Category.kind? : Category → Option NodeKind
  | client => some .client
  | server => some .server
  | database => some .database
  | group | other => none

/-- The category that belongs to a node kind. -/
def NodeKind.category? : NodeKind → Option Category
  | client => some .client
  | server => some .server
  | database => some .database
  | _ => none

/-- The category that a group's title speaks for. -/
def categoryFromTitle (title : String) : Option Category :=
  (categoryRules.find? fun rule => mentionsAny rule.2 title).map Prod.fst

/-- The category of a group. -/
def groupCategory (title : String) : Category :=
  (categoryFromTitle title).getD .group

/-- A plain node takes the kind that belongs to its category. -/
def NodeKind.upgrade (kind : NodeKind) (category : Category) : NodeKind :=
  match kind with
  | plain => category.kind?.getD plain
  | _ => kind

/-- The kind and category of a node. The title of the group around it speaks first, then its own
kind, then the word for a gateway in its label. -/
def resolveCategory (kind : NodeKind) (label : String) (groupTitle : Option String) :
    NodeKind × Category :=
  match groupTitle.bind categoryFromTitle with
  | some category => (kind.upgrade category, category)
  | none =>
    match kind.category? with
    | some category => (kind, category)
    | none =>
      if mentionsAny ["gateway"] label then (kind.upgrade .server, .server) else (kind, .other)

end Flowchart
