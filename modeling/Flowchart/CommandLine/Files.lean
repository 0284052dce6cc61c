import Flowchart.Decimal.Written
import Flowchart.Keyed
import Flowchart.Text.Quoted

/-!
Reading files by their paths, and why it can fail.
-/

namespace Flowchart.CommandLine

/-- Why a file cannot be read. -/
inductive ReadError where
  | notFound
  | notDirectory
  | isDirectory
  /-- Another reason of the system, with its number. -/
  | other (number : Nat) (reason : String)
deriving Repr, Inhabited, DecidableEq

/-- The wording of a read error for a path. -/
def ReadError.message (path : String) : ReadError → String
  | notFound => "[Errno 2] No such file or directory: " ++ Text.quoted path
  | notDirectory => "[Errno 20] Not a directory: " ++ Text.quoted path
  | isDirectory => "[Errno 21] Is a directory: " ++ Text.quoted path
  | other number reason =>
    "[Errno " ++ Decimal.natText number ++ "] " ++ reason ++ ": " ++ Text.quoted path

/-- The pieces of a text between slashes. -/
def pathPieces : List Char → List (List Char)
  | [] => [[]]
  | c :: rest =>
    match pathPieces rest with
    | piece :: pieces => if c = '/' then [] :: piece :: pieces else (c :: piece) :: pieces
    | [] => [[c]]

/-- The names on a path, without empty ones and those for the same directory. -/
def pathNames (path : String) : List String :=
  ((pathPieces path.toList).map String.ofList).filter fun name => name != "" && name != "."

/-- A path in its shortest form. One or three and more slashes at the front stand for the root, two
are kept. -/
def normalizePath (path : String) : String :=
  let root := match path.toList with
    | '/' :: '/' :: '/' :: _ => "/"
    | '/' :: '/' :: _ => "//"
    | '/' :: _ => "/"
    | _ => ""
  let names := String.intercalate "/" (pathNames path)
  if root.isEmpty && names.isEmpty then "." else root ++ names

/-- What a path leads to in a directory that holds the given files and no others. -/
def readFrom (files : Keyed String) (path : String) : Except ReadError String :=
  let normal := normalizePath path
  match Keyed.find? normal files with
  | some text => .ok text
  | none =>
    let names := pathNames path
    if names.all (· == "..") || files.keys.any fun file => (normal ++ "/").isPrefixOf file then
      .error .isDirectory
    else if path.toList.head? == some '/' then .error .notFound
    else
      match names with
      | first :: _ :: _ =>
        if (Keyed.find? first files).isSome then .error .notDirectory else .error .notFound
      | _ => .error .notFound

end Flowchart.CommandLine
