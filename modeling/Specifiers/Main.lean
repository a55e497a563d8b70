import Specifiers.Command.Run
import Specifiers.Console.Terminal

/-!
# The command line

The outer layer: it gathers the files that a request looks at, runs the request, and puts out what came
of it. The files of a project to scan are told on standard input, one path a line, so that any program
that lists files can choose them.
-/

namespace Specifiers

namespace Terminal

open Command

/-- How to use the command line. -/
def usage : String :=
  "usage: specifiers [-v] COMMAND

  init [--repo DIR] [-f | --overwrite]       make a file of settings
  extract FILE [--json] [-u | --unique] [--encoding NAME]
                                             list the specifiers of a file
  scan [--repo DIR] [--ext SUFFIX]... [--fail-fast | --keep-going] [--json] [-u | --unique]
                                             list those of the files told on standard input
  deps QUERY [--json]                        read a dependency query
  version                                    tell the version"

/-- What stands at a path of the file system, without what is in a directory. -/
def look (path : String) : IO (Option FileTree) := do
  try
    let bytes ← IO.FS.readBinFile path
    return some (.file bytes.toList)
  catch
    | .inappropriateType .. => return some (.directory [])
    | _ => return none

/-- Adds to a tree what stands along the way to a path, whose first segments are `before`. -/
def gatherAlong (t : FileTree) (before : List String) : List String → IO FileTree
  | [] => return t
  | s :: rest => do
    let here := before ++ [s]
    match t.at? here with
    | some (.directory _) => gatherAlong t here rest
    | some (.file _) => return t
    | none =>
      match ← look ("/" ++ "/".intercalate here) with
      | some (.directory _) => gatherAlong (FileTree.put (.directory []) here t) here rest
      | some found => return FileTree.put found here t
      | none => return t

/-- Adds what stands along the way to a path. -/
def gather (host : Host) (path : Path) : IO Host := do
  return host.withTree (← gatherAlong host.tree [] (path.resolve host.here).segments)

/-- Adds what stands along the ways to paths. -/
def gatherAll (host : Host) : List Path → IO Host
  | [] => return host
  | path :: paths => do gatherAll (← gather host path) paths

/-- The directory for the settings of a project. -/
def settingsPath (host : Host) (repo : String) : Path :=
  ((Path.ofString repo).resolve host.here).below [Settings.directoryName]

/-- Adds the files that a request looks at. -/
def gatherFor (host : Host) : Request → IO Host
  | .init repo _ => gather host (settingsPath host repo)
  | .extract file _ _ _ => gather host (Path.ofString file)
  | .scan repo _ _ _ _ => do
    let root := (Path.ofString repo).resolve host.here
    let told := (← (← IO.getStdin).readToEnd).splitOn "\n"
    gatherAll host ([root, Settings.userFile host.home, Settings.projectFile root,
      root.below [Ignore.fileName]] ++ (told.filter (· != "")).map Path.ofString)
  | .deps _ _ | .version => return host

/-- The number of columns of a terminal of which nothing is known. -/
def defaultColumns : Nat := 80

/-- A host without files, seen from a directory. -/
def emptyHost (here home : Path) : Host where
  tree := .directory []
  here := here
  home := home
  codecs _ := none
  levels := 400
  display := Console.Display.ofWidth defaultColumns (by decide)
  refuses := refusesLongNames 255
  templatePath := ""

/-- Writes the directory for settings that a request has made in place of the one before. -/
def keepSettings (before after : Host) (directory : Path) : IO Unit := do
  let file := directory.below [Settings.fileName]
  match before.at? file, after.at? file with
  | none, some (.file bytes) =>
    if before.hasDirectory directory then IO.FS.removeDirAll directory.text
    IO.FS.createDirAll directory.text
    IO.FS.writeBinFile file.text ⟨bytes.toArray⟩
  | _, _ => return

/-- Runs a request and gives the number with which to end. -/
def perform (verbose : Bool) (request : Request) : IO UInt32 := do
  let here := Path.ofString ((← IO.getEnv "PWD").getD "/")
  let home := Path.ofString ((← IO.getEnv "HOME").getD "/")
  let before ← gatherFor (emptyHost here home) request
  let outcome := request.run before
  if let .init repo _ := request then
    keepSettings before outcome.files (settingsPath before repo)
  for notice in outcome.notices do
    if verbose || notice.weight == .warning then
      IO.eprintln (notice.weight.name ++ ": " ++ notice.wording)
  IO.print outcome.output
  if let some e := outcome.error then IO.eprintln e.message
  return outcome.exit.toUInt32

end Terminal

end Specifiers

/-- Runs the command line that arguments spell. -/
def main (args : List String) : IO UInt32 := do
  match Specifiers.Command.CommandLine.parse args with
  | some (.run verbose request) => Specifiers.Terminal.perform verbose request
  | some .help =>
    IO.println Specifiers.Terminal.usage
    return 0
  | none =>
    IO.eprintln Specifiers.Terminal.usage
    return 2
