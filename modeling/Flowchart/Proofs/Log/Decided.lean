import Flowchart.Log.Logging

/-!
Who decides how logging is done.

The first call that configures logging decides, whatever it asks for: a later one changes nothing
and is never refused. A first call with an unknown level is refused, but its style stays in force
and keeps all later calls out, so that a refusal is not without effect. Only where the first call
has a level that is known do the style and the threshold in force come from the first such call.

Main definitions: `Logging.configureAll`, `Logging.byFirstKnown`. Main statement:
`configured_by_first`.
-/

namespace Flowchart.Log

/-- What a call asks of logging. -/
structure Configuration where
  level : String
  style : Style
deriving Repr, DecidableEq

namespace Configuration

/-- The threshold that a call asks for, if its level has one. -/
def threshold? (call : Configuration) : Option Int :=
  levelOfName? (Text.uppercase call.level)

/-- The refusal of a call whose level is unknown. -/
def refusal? (call : Configuration) : Option UnknownLevel :=
  match call.threshold? with
  | some _ => none
  | none => some ⟨Text.uppercase call.level⟩

/-- What a call asks for, if its level is known. -/
def asked? (call : Configuration) : Option Logging :=
  call.threshold?.map fun threshold => ⟨some call.style, threshold⟩

end Configuration

namespace Logging

variable {logging : Logging} {call : Configuration}

/-- Calls one after the other: the state that they lead to, and the refusal of each that is
refused. -/
def configureAll (logging : Logging) : List Configuration → Logging × List (Option UnknownLevel)
  | [] => (logging, [])
  | call :: calls =>
    let (next, refusal) := logging.configure call.level call.style
    let (last, refusals) := configureAll next calls
    (last, refusal :: refusals)

/-- What the first call with a known level asks for; without such a call nothing changes. -/
def byFirstKnown (logging : Logging) (calls : List Configuration) : Logging :=
  (calls.findSome? Configuration.asked?).getD logging

/-! ### Single calls -/

/-- Once logging is decided, a call changes nothing and is not refused. -/
theorem configure_of_decided (decided : logging.style.isSome = true) :
    logging.configure call.level call.style = (logging, none) :=
  if_pos decided

/-- The first call decides the style in any case, and the threshold if its level is known. -/
theorem configure_of_undecided (threshold : Int) (call : Configuration) :
    configure ⟨none, threshold⟩ call.level call.style =
      (⟨some call.style, call.threshold?.getD threshold⟩, call.refusal?) := by
  simp only [configure, Option.isSome_none, Bool.false_eq_true, if_false,
    Configuration.refusal?, Configuration.threshold?]
  cases levelOfName? (Text.uppercase call.level) with
  | some known => rfl
  | none => rfl

/-- A call is refused if it is the first one and its level is unknown. It leaves its style behind
and the threshold as it was. -/
theorem configure_refused {unknown : UnknownLevel}
    (refused : (logging.configure call.level call.style).2 = some unknown) :
    logging.style = none ∧ call.threshold? = none ∧ unknown = ⟨Text.uppercase call.level⟩ ∧
      (logging.configure call.level call.style).1 = ⟨some call.style, logging.threshold⟩ := by
  obtain ⟨style, threshold⟩ := logging
  cases style with
  | some style =>
      rw [configure_of_decided rfl] at refused
      cases refused
  | none =>
      rw [configure_of_undecided] at refused ⊢
      cases level : call.threshold? with
      | some known =>
          rw [Configuration.refusal?, level] at refused
          cases refused
      | none =>
          rw [Configuration.refusal?, level, Option.some.injEq] at refused
          exact ⟨rfl, rfl, refused.symm, rfl⟩

/-! ### Calls one after the other -/

/-- Once logging is decided, no calls change anything, and none of them is refused. -/
theorem configureAll_of_decided (decided : logging.style.isSome = true)
    (calls : List Configuration) :
    logging.configureAll calls = (logging, calls.map fun _ => none) := by
  induction calls with
  | nil => rfl
  | cons call calls ih =>
      rw [configureAll, configure_of_decided decided]
      simp only [ih, List.map_cons]

end Logging

open Logging

/-- The first call decides. Its style is in force from then on, and so is its level if it is known;
otherwise the threshold stays and the call is refused. All later calls change nothing and are not
refused. So what is in force comes from the first call with a known level if that is the first call
of all. A refusal never leaves things as they were: the style of the refused call stays. -/
theorem configured_by_first (threshold : Int) (first : Configuration)
    (rest : List Configuration) :
    configureAll ⟨none, threshold⟩ (first :: rest) =
        (⟨some first.style, first.threshold?.getD threshold⟩,
          first.refusal? :: rest.map fun _ => none) ∧
      (first.threshold?.isSome →
        configureAll ⟨none, threshold⟩ (first :: rest) =
          (byFirstKnown ⟨none, threshold⟩ (first :: rest), (first :: rest).map fun _ => none)) ∧
      ∀ (logging : Logging) (call : Configuration) (unknown : UnknownLevel),
        (logging.configure call.level call.style).2 = some unknown →
        logging.style = none ∧ call.threshold? = none ∧
          unknown = ⟨Text.uppercase call.level⟩ ∧
          (logging.configure call.level call.style).1 = ⟨some call.style, logging.threshold⟩ := by
  have decided : configureAll ⟨none, threshold⟩ (first :: rest) =
      (⟨some first.style, first.threshold?.getD threshold⟩,
        first.refusal? :: rest.map fun _ => none) := by
    have style : (⟨some first.style, first.threshold?.getD threshold⟩ : Logging).style.isSome =
        true := rfl
    rw [configureAll, configure_of_undecided]
    simp only [configureAll_of_decided style]
  refine ⟨decided, ?_, fun _ _ _ refused => configure_refused refused⟩
  intro known
  obtain ⟨level, isLevel⟩ := Option.isSome_iff_exists.mp known
  have asked : first.asked? = some ⟨some first.style, level⟩ := by
    rw [Configuration.asked?, isLevel, Option.map_some]
  rw [decided, byFirstKnown, List.findSome?_cons, asked, Configuration.refusal?, isLevel]
  rfl

/-- A level in small letters is known, and an unknown one after it does no harm. -/
theorem configured_by_first_debug :
    (Configuration.mk "debug" .document).threshold?.isSome = true ∧
      configureAll {} [⟨"debug", .document⟩, ⟨"loud", .plain⟩] =
        (⟨some .document, 10⟩, [none, none]) ∧
      (configure {} "loud" .plain).2 = some ⟨"LOUD"⟩ ∧
      (configure {} "loud" .plain).1 = ⟨some .plain, warning⟩ := by
  have known : (Configuration.mk "debug" .document).threshold?.isSome = true := by
    decide +kernel
  have refused : (configure {} "loud" .plain).2 = some ⟨"LOUD"⟩ := by decide +kernel
  obtain ⟨-, byKnown, ofRefusal⟩ :=
    configured_by_first warning ⟨"debug", .document⟩ [⟨"loud", .plain⟩]
  refine ⟨known, ?_, refused, (ofRefusal {} ⟨"loud", .plain⟩ _ refused).2.2.2⟩
  exact (byKnown known).trans (by decide +kernel)

/-- A call for a level that does not exist is refused, and yet its style is in force and keeps out
the call after it, whose level is known. -/
theorem configureAll_unknownLevel :
    (configure {} "BOGUS" .plain).2 = some ⟨"BOGUS"⟩ ∧ (configure {} "BOGUS" .plain).1 ≠ {} ∧
      (configureAll {} [⟨"BOGUS", .plain⟩, ⟨"DEBUG", .document⟩]).1 = ⟨some .plain, 30⟩ ∧
      byFirstKnown {} [⟨"BOGUS", .plain⟩, ⟨"DEBUG", .document⟩] = ⟨some .document, 10⟩ := by
  decide +kernel

end Flowchart.Log
