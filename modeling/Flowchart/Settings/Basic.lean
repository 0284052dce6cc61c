import Flowchart.Decimal.Reader
import Flowchart.Geometry.Double
import Flowchart.Layout.Options
import Flowchart.Validation

/-!
Settings of the program. They come from environment variables, and where these say nothing, from
a settings file. Names are compared without regard to case.

Main definition: `Settings.read`.
-/

namespace Flowchart

/-- The settings, with their values when nothing is set. -/
structure Settings where
  logLevel : String := "INFO"
  jsonLogs : Bool := false
  direction : String := "TB"
  nodeSpacing : Float := 40.0
  rankSpacing : Float := 60.0
  resolveOverlaps : Bool := true
deriving Repr, Inhabited

namespace Settings

/-- What the names of the variables start with. -/
def variableStart : String := "FLOWGRAPH_"

/-- Values under names in small letters. Of names that differ only in case, the last one counts. -/
def caseless {α : Type} (entries : Keyed α) : Keyed α :=
  Keyed.ofPairs (entries.map fun entry => (Text.lowerForKeywords entry.1, entry.2))

/-- The value of a setting: that of the environment, or else that of the file, if it has one
there. -/
def value? (environment : Keyed String) (file : Keyed (Option String)) (setting : String) :
    Option String :=
  let name := Text.lowerForKeywords (variableStart ++ setting)
  (Keyed.find? name (caseless environment)).orElse fun _ =>
    (Keyed.find? name (caseless file)).join

/-! ### Checking values -/

/-- A truth value. -/
def checkTruth (text : String) : Checked Bool :=
  Checked.truth (.str text)

/-- The number that a text spells. White space around it does not matter; underscores may stand in
it, but not next to each other or at its ends. -/
def number? (text : String) : Option Float :=
  let characters := text.toList
  (Decimal.readFloat? (Text.trimSpacing characters)).orElse fun _ =>
    if characters.head? == some '_' || characters.getLast? == some '_' ||
        Text.occursIn "__".toList characters then none
    else Decimal.readFloat? (characters.filter (· != '_'))

/-- A number of at least zero, which the number that is none is not. -/
def checkSpacing (text : String) : Checked Float :=
  match number? text with
  | none => Checked.fault .unreadableNumber
  | some number => if 0.0 ≤ number then .ok number else Checked.fault .belowMinimum

/-- A setting of its own kind, or its value when nothing is set. -/
def checked {α : Type} (environment : Keyed String) (file : Keyed (Option String))
    (check : String → Checked α) (absent : α) (setting : String) : Checked α :=
  match value? environment file setting with
  | some text => (check text).under (.field setting)
  | none => .ok absent

/-- The settings, or all faults in them. -/
def read (environment : Keyed String) (file : Keyed (Option String)) : Checked Settings :=
  let standard : Settings := {}
  let text := fun (text : String) => (.ok text : Checked String)
  let logLevel := checked environment file text standard.logLevel "log_level"
  let jsonLogs := checked environment file checkTruth standard.jsonLogs "json_logs"
  let direction := checked environment file text standard.direction "direction"
  let nodeSpacing := checked environment file checkSpacing standard.nodeSpacing "node_spacing"
  let rankSpacing := checked environment file checkSpacing standard.rankSpacing "rank_spacing"
  let resolveOverlaps :=
    checked environment file checkTruth standard.resolveOverlaps "resolve_overlaps"
  match logLevel, jsonLogs, direction, nodeSpacing, rankSpacing, resolveOverlaps with
  | .ok logLevel, .ok jsonLogs, .ok direction, .ok nodeSpacing, .ok rankSpacing,
    .ok resolveOverlaps =>
    .ok ⟨logLevel, jsonLogs, direction, nodeSpacing, rankSpacing, resolveOverlaps⟩
  | _, _, _, _, _, _ =>
    .error (logLevel.faults ++ jsonLogs.faults ++ direction.faults ++ nodeSpacing.faults ++
      rankSpacing.faults ++ resolveOverlaps.faults)

/-- The layout options that the settings ask for. -/
def layoutOptions (settings : Settings) : Except (OptionsError Float) (LayoutOptions Float) :=
  LayoutOptions.check (some settings.direction) settings.nodeSpacing settings.rankSpacing
    settings.resolveOverlaps

/-- Settings as a value. -/
def toJson (settings : Settings) : Json :=
  .obj [("log_level", .str settings.logLevel), ("json_logs", .bool settings.jsonLogs),
    ("direction", .str settings.direction), ("node_spacing", .float settings.nodeSpacing),
    ("rank_spacing", .float settings.rankSpacing),
    ("resolve_overlaps", .bool settings.resolveOverlaps)]

end Settings

end Flowchart
