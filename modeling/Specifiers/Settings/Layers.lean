import Specifiers.FileSystem
import Specifiers.Settings.Validation
import Specifiers.Toml.Document
import Specifiers.Value.Merge

/-!
# Layers of settings

Settings come in layers: those of the user, those of the project over them, and what was asked for on
the command line over both. The layers are merged before they are checked, so a fault that a higher
layer hides does no harm.
-/

namespace Specifiers

namespace Settings

/-- Why there are no settings. -/
inductive LoadError
  | file (e : FileError)
  | document (e : Toml.DocumentError)
  | invalid (e : Invalid)
  deriving DecidableEq, Repr

/-- The wording of the error. -/
def LoadError.message : LoadError → String
  | file e => e.message
  | document e => e.message
  | invalid e => e.message

/-- The name of a file of settings. -/
def fileName : String := "jsreq.toml"

/-- The directory of a project that holds its file of settings. -/
def directoryName : String := ".jsreq"

/-- The file of settings of a user. -/
def userFile (home : Path) : Path := home.below [".config", "jsreq", fileName]

/-- The file of settings of the project at a root. -/
def projectFile (root : Path) : Path := root.below [directoryName, fileName]

/-- The layer that a file spells; without the file it is empty. -/
def layer (fs : FileSystem) (path : Path) : Except LoadError (Table Value) :=
  if fs.hasEntry path then do
    let bytes ← (fs.read path).mapError .file
    (Toml.ofBytes bytes).mapError .document
  else .ok []

/-- The layer of what was asked for: suffixes count when there are any. -/
def overrides (extensions : Option (List String)) (failFast : Option Bool) : Table Value :=
  let extensions := extensions.getD []
  [(Part.scan.name, .table
    ((if extensions.isEmpty then [] else [("extensions", textsValue extensions)]) ++
      match failFast with
      | some b => [("fail_fast", .bool b)]
      | none => []))]

/-- The layers laid over one another, the lowest first. -/
def stack (layers : List (Table Value)) : Table Value := layers.foldl Value.merge []

/-- The settings under the files of a user and of a project and what was asked for. -/
def load (fs : FileSystem) (project : Path) (asked : Table Value) : Except LoadError Settings := do
  let user ← layer fs (userFile fs.home)
  let own ← layer fs project
  (ofTable (stack [user, own, asked])).mapError .invalid

end Settings

end Specifiers
