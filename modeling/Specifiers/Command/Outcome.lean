import Specifiers.Console.Line
import Specifiers.Project
import Specifiers.Settings.Layers
import Specifiers.Tree.Json

/-!
# Outcomes of commands

A command puts out text, ends with a number, and can change the files of its host. An error that a command
has no message for breaks it off: then the number is one, and the error comes with the outcome.
-/

namespace Specifiers

namespace Command

/-- An error that breaks off a command. -/
inductive CommandError
  | analysis (e : AnalysisError)
  | patterns (e : Ignore.SourceError)
  | settings (e : Settings.LoadError)
  /-- A file stands where a directory was to be removed. -/
  | notRemovable (path : String)
  | change (e : ChangeError)
  | markup (e : Console.MarkupError)
  deriving DecidableEq, Repr

/-- The wording of the error. -/
def CommandError.message : CommandError → String
  | analysis e => e.message
  | patterns e => e.message
  | settings e => e.message
  | notRemovable path => FileFault.notDirectory.wording ++ ": PosixPath(" ++ quoted path ++ ")"
  | change e => e.message
  | markup e => e.message

/-- The outcome of a command. -/
structure Outcome where
  files : Host
  output : String := ""
  exit : Nat := 0
  error : Option CommandError := none
  notices : List Notice := []

namespace Outcome

/-- The outcome of a command that puts out messages. -/
def printing (host : Host) (messages : List String) (exit : Nat := 0) : Outcome :=
  match Console.lines host.display messages with
  | (output, none) => { files := host, output, exit }
  | (output, some e) => { files := host, output, exit := 1, error := some (.markup e) }

/-- The outcome of a command that puts out a tree. -/
def json (host : Host) (t : Tree) (exit : Nat := 0) : Outcome :=
  { files := host, output := Json.text t ++ "\n", exit }

/-- The outcome of a command that an error breaks off. -/
def broken (host : Host) (e : CommandError) : Outcome :=
  { files := host, exit := 1, error := some e }

/-- An outcome after other output. -/
def after (output : String) (o : Outcome) : Outcome := { o with output := output ++ o.output }

/-- An outcome with notices from before. -/
def noting (notices : List Notice) (o : Outcome) : Outcome :=
  { o with notices := notices ++ o.notices }

end Outcome

end Command

end Specifiers
