import Flowchart.Keyed
import Flowchart.Text.Search

/-!
References in the values of settings files: a name in braces after a dollar sign stands for the
value of that name. A colon and a hyphen after the name start the text that stands in where there
is no value.
-/

namespace Flowchart

/-- A reference to a value, and what stands in for it. -/
structure Reference where
  name : String
  absent : String
deriving Repr, Inhabited, DecidableEq

namespace Reference

open Text (Recognizer run)

/-- A reference at the front of a text. Neither part of it can hold a closing brace. -/
def read : Recognizer Reference := fun text => do
  let opened ← Text.afterLiteral ['$', '\x7b'] text
  let (name, rest) := run (fun c => c != '\x7d' && c != ':') opened
  match rest with
  | '\x7d' :: left => some (⟨String.ofList name, ""⟩, left)
  | ':' :: '-' :: rest =>
    let (absent, rest) := run (· != '\x7d') rest
    some (⟨String.ofList name, String.ofList absent⟩, ← Text.afterLiteral ['\x7d'] rest)
  | _ => none

/-- The references in a text. -/
def all (text : List Char) : List Reference :=
  (Text.findAll read 0 text).map Prod.snd

/-- What a reference stands for: the known value of its name, or else that of the environment. A
name that is known without a value stands for nothing. -/
def meaning (environment : Keyed String) (known : Keyed (Option String)) (reference : Reference) :
    String :=
  match Keyed.find? reference.name known with
  | some value => value.getD ""
  | none => (Keyed.find? reference.name environment).getD reference.absent

/-- A text with what its references stand for in their place. -/
def replaceAll (environment : Keyed String) (known : Keyed (Option String)) :
    List Char → List Char :=
  Text.replaceFound read fun reference => (meaning environment known reference).toList

end Reference

end Flowchart
