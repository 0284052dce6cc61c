import Flowchart.CommandLine.Run
import Flowchart.Layout.Layered.Drawing

/-!
The program as it is started: it reads its surroundings, runs, and writes what the run leaves
behind.
-/

namespace Flowchart.CommandLine

/-- The variables for the settings, in capital or small letters, and further ones, as far as they
are set. -/
def readVariables (further : List String) : IO (Keyed String) := do
  let settings :=
    ["log_level", "json_logs", "direction", "node_spacing", "rank_spacing", "resolve_overlaps"]
  let names := settings.flatMap fun setting =>
    let name := Settings.variableStart ++ setting
    [name.toLower, name.toUpper]
  (names ++ further).filterMapM fun name => do
    return (← IO.getEnv name).map fun value => (name, value)

/-- A file's text, or why it cannot be read. -/
def readPath (path : String) : IO (Except ReadError String) := do
  try
    return .ok (← IO.FS.readFile path)
  catch cause =>
    match cause with
    | .noFileOrDirectory .. => return .error .notFound
    | .inappropriateType .. => return .error .isDirectory
    | .permissionDenied .. => return .error (.other 13 "Permission denied")
    | _ => return .error .notFound

/-- Standard input and the file, of which only the one that the arguments ask for is read. -/
def readInputs (arguments : List String) : IO (String × Except ReadError String) := do
  match Arguments.read .standard arguments with
  | .help | .refused _ => return ("", .error .notFound)
  | .run read =>
    if read.file = "-" then return (← (← IO.getStdin).readToEnd, .error .notFound)
    else return ("", ← readPath read.file)

/-- Everything that a run depends on, as it is when the program starts. -/
def readCall (arguments : List String) : IO Call := do
  let settingsFile := match ← readPath ".env" with
    | .ok text => text
    | .error _ => ""
  let environment ← readVariables (SettingsFile.referredNames settingsFile)
  let (standardInput, file) ← readInputs arguments
  return ⟨arguments, environment, settingsFile, standardInput, fun _ => file, .standard⟩

end Flowchart.CommandLine

open Flowchart CommandLine in
/-- Run the program. -/
def main (arguments : List String) : IO UInt32 := do
  match run Layout.layered (← readCall arguments) with
  | .error cause =>
    IO.eprintln cause.message
    return 1
  | .ok outcome =>
    IO.print outcome.output
    IO.eprint outcome.errors
    return outcome.exitCode.toUInt32
