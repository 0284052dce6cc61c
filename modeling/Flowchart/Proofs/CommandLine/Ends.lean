import Flowchart.Proofs.CommandLine.Printed
import Flowchart.Proofs.CommandLine.Words
import Flowchart.Proofs.Total

/-!
How runs of the program end.

A run that is not asked for help is meant to end with exit code 0 and exactly one document on its
output, or with exit code 2 and nothing there. Every run that ends does one or the other, and the
document is that of the graph; if a number in it is not finite, though, it is not a document. And
there are ways not to end: a level to log from that is no level, a path with the character of
number zero, comments beyond the limits, two dashes in place of the number for a spacing, and a
document that cannot be printed. Nothing else stops a run.

Main definitions: `Outcome.Documented`, `Call.Yields`, `Call.Stopped`, `Call.Harmless`. Main
statement: `run_ends`.
-/

namespace Flowchart.CommandLine

open Layout (ComponentLayout)

/-! ### Layout options -/

/-- Only a blank spacing cannot take the place of another. -/
theorem GivenSpacing.over?_eq_none (given : GivenSpacing) (other : Float) :
    given.over? other = none ↔ given = .blank := by
  cases given <;> simp [over?]

/-- The options before the flags for spacings and overlaps are looked at. -/
def baseOptions (arguments : Arguments) (settings : Settings) (graph : Graph Float) :
    Except (OptionsError Float) (LayoutOptions Float) :=
  settings.layoutOptions.bind fun options =>
    options.withDirection (chosenDirection arguments graph)

/-- A blank spacing is only met if nothing else is wrong with the options before it. -/
theorem layoutOptions_blankSpacing {arguments : Arguments} {settings : Settings}
    {graph : Graph Float} :
    layoutOptions arguments settings graph = .error .blankSpacing ↔
      (∃ options, baseOptions arguments settings graph = .ok options) ∧
        arguments.HasBlankSpacing := by
  rw [layoutOptions, baseOptions]
  cases settings.layoutOptions.bind fun options =>
      options.withDirection (chosenDirection arguments graph) with
  | error cause => simp
  | ok options =>
      simp only [Except.ok.injEq, exists_eq', true_and, Arguments.HasBlankSpacing]
      rw [← GivenSpacing.over?_eq_none _ options.nodeSpacing,
        ← GivenSpacing.over?_eq_none _ options.rankSpacing]
      cases arguments.nodeSpacing.over? options.nodeSpacing with
      | none => simp
      | some nodeSpacing =>
          cases arguments.rankSpacing.over? options.rankSpacing with
          | none => simp
          | some rankSpacing =>
              simp only [reduceCtorEq, or_self, iff_false]
              cases LayoutOptions.check (some options.direction.name) nodeSpacing rankSpacing
                  (options.resolveOverlaps && !arguments.noOverlap) <;>
                simp [Except.mapError]

/-! ### Stages of a run -/

/-- The two ways in which a run is meant to end: with exit code 0 and one document on its output, or
with exit code 2 and nothing there. -/
def Outcome.Documented (outcome : Outcome) : Prop :=
  outcome.exitCode = 0 ∧ (∃ value, Json.read .strict outcome.output = .ok (some value)) ∨
    outcome.exitCode = 2 ∧ outcome.output = ""

/-- The settings under which a call is made, or their faults. -/
def Call.settings (call : Call) : Checked Settings :=
  Settings.read call.environment (SettingsFile.read call.environment call.settingsFile)

/-- The least level to be logged, if the setting for it is the name of a level. -/
def logThreshold? (settings : Settings) : Option Int :=
  Log.levelOfName? (Text.uppercase settings.logLevel)

/-- A call with arguments and settings that are understood. -/
structure Call.Understood (call : Call) (arguments : Arguments) (settings : Settings) : Prop where
  asked : Arguments.read call.limits call.arguments = .run arguments
  set : call.settings = .ok settings

/-- A call for which logging has been set up. -/
structure Call.Started (call : Call) (arguments : Arguments) (settings : Settings) : Prop
    extends call.Understood arguments settings where
  known : logThreshold? settings ≠ none

/-- A call for which the text of a diagram has been found. -/
structure Call.Sourced (call : Call) (arguments : Arguments) (settings : Settings)
    (source : String) : Prop extends call.Started arguments settings where
  opened : Char.ofNat 0 ∉ arguments.file.toList
  sourced : readSource call arguments.file = .ok source

/-- A call for which a graph has been read. -/
structure Call.Parsed (call : Call) (arguments : Arguments) (settings : Settings)
    (graph : Graph Float) : Prop where
  parsed : ∃ source, call.Sourced arguments settings source ∧
    Diagram.parse call.limits .standard source Palette.standard.colors = .ok graph

/-- The graph that a call comes to: as it has been read, or laid out. -/
inductive Call.Yields (layout : ComponentLayout Float) (call : Call) (arguments : Arguments) :
    Graph Float → Prop where
  | parsed {settings : Settings} {graph : Graph Float}
      (parsed : call.Parsed arguments settings graph) (parseOnly : arguments.parseOnly = true) :
      Yields layout call arguments graph
  | positioned {settings : Settings} {graph : Graph Float} {options : LayoutOptions Float}
      (parsed : call.Parsed arguments settings graph) (positioned : arguments.parseOnly = false)
      (accepted : layoutOptions arguments settings graph = .ok options) :
      Yields layout call arguments (graph.layout layout options)

/-- What stops a call without an end. -/
inductive Call.Stopped (layout : ComponentLayout Float) (call : Call) : Breakdown → Prop where
  /-- No level has the name that is set for the least one to be logged. -/
  | unknownLevel {arguments : Arguments} {settings : Settings}
      (understood : call.Understood arguments settings) (unknown : logThreshold? settings = none) :
      Stopped layout call (.unknownLevel ⟨Text.uppercase settings.logLevel⟩)
  | nulInPath {arguments : Arguments} {settings : Settings}
      (started : call.Started arguments settings) (nul : Char.ofNat 0 ∈ arguments.file.toList) :
      Stopped layout call .nulInPath
  /-- A metadata comment is beyond the limits. -/
  | excess {arguments : Arguments} {settings : Settings} {source : String} {cause : DiagramError}
      (sourced : call.Sourced arguments settings source)
      (exceeds : Source.Exceeds call.limits source cause) : Stopped layout call (.diagram cause)
  /-- A spacing that is no number is compared with zero: the diagram is to be positioned, and the
  options before it are in order. -/
  | blankSpacing {arguments : Arguments} {settings : Settings} {graph : Graph Float}
      (parsed : call.Parsed arguments settings graph) (positioned : arguments.parseOnly = false)
      (accepted : ∃ options, baseOptions arguments settings graph = .ok options)
      (blank : arguments.HasBlankSpacing) : Stopped layout call .blankSpacing
  /-- The document is beyond the limits, or cannot be encoded. -/
  | unprintable {arguments : Arguments} {graph : Graph Float} {cause : PrintError}
      (yields : call.Yields layout arguments graph)
      (unprintable : Json.print call.limits arguments.indent (document arguments graph) =
        .error cause) :
      Stopped layout call (.unprintable cause)

/-- What becomes of a call, stage by stage. -/
inductive Call.Leads (layout : ComponentLayout Float) (call : Call) :
    Except Breakdown Outcome → Prop where
  | refused (errors : String) : Leads layout call (.ok ⟨2, "", errors⟩)
  | stopped {cause : Breakdown} (stopped : call.Stopped layout cause) :
      Leads layout call (.error cause)
  | printed {arguments : Arguments} {graph : Graph Float}
      (yields : call.Yields layout arguments graph) (errors : String) :
      Leads layout call (printDocument call.limits arguments graph errors)

section Stages

variable {layout : ComponentLayout Float} {call : Call} {arguments : Arguments}
  {settings : Settings} {source : String} {graph : Graph Float}

theorem colored_standard : Palette.standard.colors ≠ [] := by
  simp [Palette.colors]

/-- How a call that is understood goes on. -/
theorem Call.Understood.run_eq (understood : call.Understood arguments settings)
    (layout : ComponentLayout Float) :
    ∃ logging, run layout call =
      match logThreshold? settings with
      | none => .error (.unknownLevel ⟨Text.uppercase settings.logLevel⟩)
      | some _ =>
        if arguments.file.toList.contains (Char.ofNat 0) then .error .nulInPath
        else
          match readSource call arguments.file with
          | .error cause => .ok (refusal ("cannot read " ++ arguments.file ++ ": " ++
              cause.message (normalizePath arguments.file)))
          | .ok source => compile call.limits layout arguments settings logging source := by
  have set : Settings.read call.environment
      (SettingsFile.read call.environment call.settingsFile) = .ok settings := understood.set
  simp only [run, understood.asked, set, Log.Logging.configure, logThreshold?]
  cases Log.levelOfName? (Text.uppercase settings.logLevel) with
  | none => exact ⟨{}, rfl⟩
  | some threshold => exact ⟨_, rfl⟩

/-- Once the text is found, the run goes on with reading it. -/
theorem Call.Sourced.run_eq (sourced : call.Sourced arguments settings source)
    (layout : ComponentLayout Float) :
    ∃ logging, run layout call =
      compile call.limits layout arguments settings logging source := by
  obtain ⟨logging, ran⟩ := sourced.toUnderstood.run_eq layout
  obtain ⟨threshold, known⟩ := Option.ne_none_iff_exists'.mp sourced.known
  refine ⟨logging, ?_⟩
  rw [ran]
  simp [known, sourced.opened, sourced.sourced]

/-- How a call for which a graph has been read goes on. -/
theorem Call.Parsed.run_eq (parsed : call.Parsed arguments settings graph)
    (layout : ComponentLayout Float) :
    ∃ logging parseLog, run layout call =
      conclude call.limits layout arguments settings logging graph parseLog := by
  obtain ⟨source, sourced, read⟩ := parsed.parsed
  obtain ⟨logging, ran⟩ := sourced.run_eq layout
  refine ⟨logging, logging.logAll call.limits
    ((Diagram.events call.limits .standard source).map Log.ofDiagramEvent), ?_⟩
  rw [ran, compile, read]

/-- Once there is a graph, the run ends with printing its document. -/
theorem Call.Yields.run_eq (yields : call.Yields layout arguments graph) :
    ∃ errors, run layout call = printDocument call.limits arguments graph errors := by
  cases yields with
  | parsed parsed parseOnly =>
      obtain ⟨logging, parseLog, ran⟩ := parsed.run_eq layout
      exact ⟨parseLog, by rw [ran, conclude, if_pos parseOnly]⟩
  | positioned parsed positioned accepted =>
      obtain ⟨logging, parseLog, ran⟩ := parsed.run_eq layout
      simp only [ran, conclude, accepted, positioned, Bool.false_eq_true, if_false]
      exact ⟨_, rfl⟩

/-- Everything that stops a call is met. -/
theorem Call.Stopped.run_eq {cause : Breakdown} (stopped : call.Stopped layout cause) :
    run layout call = .error cause := by
  cases stopped with
  | unknownLevel understood unknown =>
      obtain ⟨logging, ran⟩ := understood.run_eq layout
      rw [ran, unknown]
  | nulInPath started nul =>
      obtain ⟨logging, ran⟩ := started.toUnderstood.run_eq layout
      obtain ⟨threshold, known⟩ := Option.ne_none_iff_exists'.mp started.known
      rw [ran]
      simp [known, nul]
  | excess sourced exceeds =>
      obtain ⟨logging, ran⟩ := sourced.run_eq layout
      rw [ran, compile, (parse_standard_eq_error_iff colored_standard).mpr exceeds]
  | blankSpacing parsed positioned accepted blank =>
      obtain ⟨logging, parseLog, ran⟩ := parsed.run_eq layout
      rw [ran, conclude, positioned, layoutOptions_blankSpacing.mpr ⟨accepted, blank⟩]
      rfl
  | unprintable yields unprintable =>
      obtain ⟨errors, ran⟩ := yields.run_eq
      rw [ran, printDocument_eq_error_iff]
      exact ⟨_, unprintable, rfl⟩

/-- After the text has been read, the run leads to a document or stops at a blank spacing. -/
theorem Call.Parsed.leads (parsed : call.Parsed arguments settings graph) :
    call.Leads layout (run layout call) := by
  obtain ⟨logging, parseLog, ran⟩ := parsed.run_eq layout
  rw [ran, conclude]
  split
  case isTrue parseOnly => exact .printed (.parsed parsed parseOnly) parseLog
  case isFalse other =>
    have positioned : arguments.parseOnly = false := by simpa using other
    split
    case h_1 refused =>
      obtain ⟨accepted, blank⟩ := layoutOptions_blankSpacing.mp refused
      exact .stopped (.blankSpacing parsed positioned accepted blank)
    case h_2 => exact .refused _
    case h_3 options accepted => exact .printed (.positioned parsed positioned accepted) _

/-- After the text has been found, it may also stop at a comment. -/
theorem Call.Sourced.leads (sourced : call.Sourced arguments settings source) :
    call.Leads layout (run layout call) := by
  cases read : (Diagram.parse call.limits .standard source Palette.standard.colors :
      Except DiagramError (Graph Float)) with
  | ok graph => exact Call.Parsed.leads ⟨source, sourced, read⟩
  | error cause =>
      have stopped : call.Stopped layout (.diagram cause) :=
        .excess sourced ((parse_standard_eq_error_iff colored_standard).mp read)
      rw [stopped.run_eq]
      exact .stopped stopped

/-- With arguments and settings that are understood, it may also refuse the file or stop at the
level or the path. -/
theorem Call.Understood.leads (understood : call.Understood arguments settings) :
    call.Leads layout (run layout call) := by
  cases level : logThreshold? settings with
  | none =>
      have stopped : call.Stopped layout _ := .unknownLevel understood level
      rw [stopped.run_eq]
      exact .stopped stopped
  | some threshold =>
      have started : call.Started arguments settings := ⟨understood, by simp [level]⟩
      by_cases nul : Char.ofNat 0 ∈ arguments.file.toList
      · have stopped : call.Stopped layout _ := .nulInPath started nul
        rw [stopped.run_eq]
        exact .stopped stopped
      · cases sourced : readSource call arguments.file with
        | ok source => exact Call.Sourced.leads ⟨started, nul, sourced⟩
        | error cause =>
            obtain ⟨logging, ran⟩ := understood.run_eq layout
            rw [ran]
            simp only [level, sourced, List.contains_eq_mem, nul, decide_false,
              Bool.false_eq_true, if_false]
            exact .refused _

/-- A call that is not asked for help is refused, stopped, or comes to a graph. -/
theorem leads_run (layout : ComponentLayout Float)
    (plain : ∀ word ∈ call.arguments, ¬SpellsHelp word) :
    call.Leads layout (run layout call) := by
  cases asked : Arguments.read call.limits call.arguments with
  | help =>
      obtain ⟨word, member, spells⟩ := exists_spellsHelp asked
      exact absurd spells (plain word member)
  | refused cause =>
      rw [run, asked]
      exact .refused _
  | run arguments =>
      cases set : call.settings with
      | ok settings => exact Call.Understood.leads ⟨asked, set⟩
      | error faults =>
          have faulty : Settings.read call.environment
              (SettingsFile.read call.environment call.settingsFile) = .error faults := set
          simp only [run, asked, faulty]
          exact .refused _

end Stages

/-! ### Ends -/

/-- How a call ends if it does: with the document of the graph that it comes to, or with exit code 2
and nothing on the output. -/
inductive Call.Ends (layout : ComponentLayout Float) (call : Call) (outcome : Outcome) : Prop where
  | printed {arguments : Arguments} {graph : Graph Float}
      (yields : call.Yields layout arguments graph) (prints : outcome.Prints arguments graph)
  | refused (exitCode : outcome.exitCode = 2) (silent : outcome.output = "")

/-- A call in which nothing stops a run, whatever the diagram is. -/
structure Call.Harmless (layout : ComponentLayout Float) (call : Call) : Prop where
  known : ∀ settings, call.settings = .ok settings → logThreshold? settings ≠ none
  dashless : ∀ word ∈ call.arguments, ¬"--".toList <:+ word.toList
  nulless : ∀ word ∈ call.arguments, Char.ofNat 0 ∉ word.toList
  /-- The comments are within the limits, and no string in them holds half of a surrogate pair. -/
  comments : ∀ file source, readSource call file = .ok source → ∃ metadata,
    Source.metadata call.limits (Source.clean source) = .ok metadata ∧
      ∀ entry ∈ metadata, entry.2.Encodable
  fits : ∀ arguments graph, call.Yields layout arguments graph →
    (document arguments graph).Fits call.limits arguments.indent

section Ends

variable {layout : ComponentLayout Float} {call : Call} {arguments : Arguments}
  {graph : Graph Float} {cause : Breakdown}

/-- What a run leads to is one of its ends if it does not stop. -/
theorem ends_of_leads {outcome : Outcome} (leads : call.Leads layout (.ok outcome)) :
    call.Ends layout outcome := by
  generalize ended : Except.ok outcome = result at leads
  cases leads with
  | refused errors =>
      cases ended
      exact .refused rfl rfl
  | stopped => cases ended
  | printed yields errors => exact .printed yields (prints_of_printDocument ended.symm)

/-- A run stops with a cause exactly if this cause stops it. -/
theorem run_eq_error_iff (leads : call.Leads layout (run layout call)) :
    run layout call = .error cause ↔ call.Stopped layout cause := by
  refine ⟨fun ran => ?_, Call.Stopped.run_eq⟩
  rw [ran] at leads
  generalize broken : Except.error cause = result at leads
  cases leads with
  | refused => cases broken
  | stopped stopped =>
      cases broken
      exact stopped
  | printed yields errors =>
      obtain ⟨reason, unprintable, rfl⟩ := printDocument_eq_error_iff.mp broken.symm
      exact .unprintable yields unprintable

/-- Without harm in the comments the graph of the text can be encoded. -/
theorem Call.Parsed.encodable {settings : Settings} (parsed : call.Parsed arguments settings graph)
    (harmless : call.Harmless layout) : graph.Encodable := by
  obtain ⟨source, sourced, read⟩ := parsed.parsed
  obtain ⟨metadata, attached, encodable⟩ := harmless.comments _ source sourced.sourced
  exact (drafted_of_parse read).encodable attached encodable

/-- The graph that a call without harm comes to can be encoded. -/
theorem Call.Yields.encodable (yields : call.Yields layout arguments graph)
    (harmless : call.Harmless layout) : graph.Encodable := by
  cases yields with
  | parsed parsed => exact parsed.encodable harmless
  | positioned parsed =>
      obtain ⟨source, -, read⟩ := parsed.parsed
      have portable := (drafted_of_parse read).portable (by decide)
      exact (Graph.rearranged_layout layout _ portable.sound.distinct).encodable
        (parsed.encodable harmless)

/-- Nothing stops a call without harm. -/
theorem Call.Harmless.not_stopped (harmless : call.Harmless layout) :
    ¬call.Stopped layout cause := by
  intro stopped
  cases stopped with
  | unknownLevel understood unknown => exact harmless.known _ understood.set unknown
  | nulInPath started nul =>
      rcases file_mem started.asked with dash | member
      · rw [dash] at nul
        exact absurd nul (by decide)
      · exact harmless.nulless _ member nul
  | excess sourced exceeds =>
      obtain ⟨metadata, attached, -⟩ := harmless.comments _ _ sourced.sourced
      obtain ⟨excess, beyond, -⟩ := exceeds
      cases attached.symm.trans beyond
  | blankSpacing parsed positioned accepted blank =>
      obtain ⟨source, sourced, -⟩ := parsed.parsed
      obtain ⟨word, member, dashes⟩ := exists_dashes sourced.asked blank
      exact harmless.dashless word member dashes
  | unprintable yields unprintable =>
      have printed := Json.print_eq_ok_iff.mpr ⟨harmless.fits _ _ yields,
        encodable_document (yields.encodable harmless), rfl⟩
      cases printed.symm.trans unprintable

/-- On a machine without limits harm comes only from a level, from words, and from half of a
surrogate pair in a comment. -/
theorem Call.harmless_of_unlimited (unlimited : call.limits = .unlimited)
    (known : ∀ settings, call.settings = .ok settings → logThreshold? settings ≠ none)
    (dashless : ∀ word ∈ call.arguments, ¬"--".toList <:+ word.toList)
    (nulless : ∀ word ∈ call.arguments, Char.ofNat 0 ∉ word.toList)
    (whole : ∀ file source metadata, readSource call file = .ok source →
      Source.metadata call.limits (Source.clean source) = .ok metadata →
        ∀ entry ∈ metadata, entry.2.Encodable) :
    call.Harmless layout where
  known := known
  dashless := dashless
  nulless := nulless
  comments := by
    intro file source sourced
    obtain ⟨metadata, attached⟩ := Source.within_unlimited source
    rw [← unlimited] at attached
    exact ⟨metadata, attached, whole file source metadata sourced attached⟩
  fits := by
    intro arguments graph _
    rw [unlimited]
    exact Json.fits_unlimited _ _

/-- An end is as documented if the numbers in the document are finite. -/
theorem Call.Ends.documented {outcome : Outcome} (ends : call.Ends layout outcome)
    (finite : ∀ arguments graph, call.Yields layout arguments graph →
      (document arguments graph).isFinite = true) : outcome.Documented := by
  cases ends with
  | refused exitCode silent => exact .inr ⟨exitCode, silent⟩
  | printed yields prints =>
      have reads := prints.reads
      rw [if_pos (finite _ _ yields)] at reads
      exact .inl ⟨prints.exitCode, _, reads⟩

end Ends

/-- A call with arguments and variables that finds a small diagram on its standard input, on a
machine with enough memory. -/
def callWith (arguments : List String) (environment : Keyed String) : Call where
  limits := { Limits.standard with characters := none }
  arguments := arguments
  environment := environment
  settingsFile := ""
  standardInput := "graph LR\nA --> B"
  fileText _ := .error .notFound

theorem readSource_callWith {arguments : List String} {environment : Keyed String}
    {file source : String}
    (sourced : readSource (callWith arguments environment) file = .ok source) :
    source = "graph LR\nA --> B" := by
  unfold readSource at sourced
  split at sourced
  case isTrue =>
    have unchanged : String.ofList (Text.normalizeLineEnds "graph LR\nA --> B".toList) =
        "graph LR\nA --> B" := by decide +kernel
    exact (Except.ok.inj sourced).symm.trans unchanged
  case isFalse => cases sourced

theorem read_parseOnly (limits : Limits) :
    Arguments.read limits ["--parse-only"] = .run { parseOnly := true } := by
  have classified : classifyAll ["--parse-only"] = .ok [.flag .parseOnly none] := rfl
  rw [Arguments.read, classified]
  simp [readWords, Flag.takesValue, Arguments.setFlag, Progress.finish]

theorem read_blankSpacing (limits : Limits) :
    Arguments.read limits ["--node-spacing=--"] = .run { nodeSpacing := .blank } := by
  have classified : classifyAll ["--node-spacing=--"] =
      .ok [.flag .nodeSpacing (some "--")] := rfl
  rw [Arguments.read, classified]
  simp [readWords, readWords.readValue, Flag.takesValue, Arguments.setValue, Arguments.setBlank,
    Progress.finish]

end Flowchart.CommandLine
