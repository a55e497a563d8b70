import Specifiers.FileTree

/-!
# Changing file trees

A file tree is changed by one operation after the other. Before each of them a host can refuse it, for a
reason of its own: a name is too long, or there is no room left. What was changed before that stays changed,
so a change that ends in the middle leaves behind what it has come to. Paths are meant from the root.
-/

namespace Specifiers

/-- An operation on a file tree. -/
inductive FileOperation
  /-- Looks for what stands at a path. -/
  | look (p : Path)
  /-- Lists the entries of a directory. -/
  | list (p : Path)
  | removeFile (p : Path)
  | removeDirectory (p : Path)
  | makeDirectory (p : Path)
  /-- Reads the file of settings that projects start with, which is no part of the tree. -/
  | readTemplate
  /-- Opens a file to be written: it is made if it is missing, and emptied. -/
  | openFile (p : Path)
  | write (p : Path)
  deriving DecidableEq, Repr

/-- What a host refuses to do to a file tree, with the wording of the error. -/
abbrev Refusals := FileTree → FileOperation → Option String

/-- Why a change ends. -/
inductive ChangeError
  | file (e : FileError)
  | refused (message : String)
  /-- The file of settings that projects start with cannot be read from the path. -/
  | noTemplate (path : String)
  deriving DecidableEq, Repr

/-- The wording of the error. -/
def ChangeError.message : ChangeError → String
  | file e => e.message
  | refused message => message
  | noTemplate path => "Unable to read default config at " ++ path

/-- Is the error that a directory above is missing? -/
def ChangeError.isMissing : ChangeError → Bool
  | file e => e.fault == .missing
  | refused _ | noTemplate _ => false

/-- A change of a file tree. When it ends with an error, the tree stays as it is by then. -/
abbrev Change := EStateM ChangeError FileTree

namespace Change

variable (refuses : Refusals)

/-- Goes on unless the host refuses an operation. -/
def ask (op : FileOperation) : Change Unit := fun t =>
  match refuses t op with
  | some message => .error (.refused message) t
  | none => .ok () t

/-- Makes a tree at a path, in a directory that is there. -/
def place (p : Path) (new : FileTree) : Change Unit := fun t =>
  match t.faultAbove? p.segments with
  | some fault => .error (.file ⟨fault, p.text⟩) t
  | none => .ok () (FileTree.put new p.segments t)

/-- What stands at a path. -/
def look? (p : Path) : Change (Option FileTree) := do
  ask refuses (.look p)
  return (← get).at? p.segments

/-! ## Making directories -/

/-- Makes a directory. -/
def makeDirectory (p : Path) : Change Unit := do
  ask refuses (.makeDirectory p)
  if ((← get).at? p.segments).isSome then throw (.file ⟨.alreadyThere, p.text⟩)
  place p (.directory [])

/-- Goes on after an error in making a directory if it is there all the same. -/
def unlessThere (p : Path) (e : ChangeError) : Change Unit := do
  match ← look? refuses p with
  | some (.directory _) => return
  | _ => throw e

/-- Makes a directory, with those above it that are missing. The segments are given with the last first. -/
def makeDirectories (anchor : Anchor) : List String → Change Unit
  | [] => return
  | name :: above =>
    let p : Path := ⟨anchor, (name :: above).reverse⟩
    tryCatch (makeDirectory refuses p) fun e =>
      if e.isMissing then do
        makeDirectories anchor above
        tryCatch (makeDirectory refuses p) (unlessThere refuses p)
      else unlessThere refuses p e

/-! ## Writing -/

/-- Opens a file to be written. -/
def openFile (p : Path) : Change Unit := do
  ask refuses (.openFile p)
  if ((← get).at? p.segments).any FileTree.isDirectory then throw (.file ⟨.isDirectory, p.text⟩)
  place p (.file [])

/-- Writes the bytes of a file that is open. -/
def write (p : Path) (bytes : List UInt8) : Change Unit := do
  ask refuses (.write p)
  modify (FileTree.put (.file bytes) p.segments)

/-! ## Removing -/

mutual

/-- Removes what stands at a path, from the innermost outwards. -/
def remove (p : Path) : FileTree → Change Unit
  | .file _ => do
    ask refuses (.removeFile p)
    modify (FileTree.erase p.segments)
  | .directory es => do
    ask refuses (.list p)
    removeEntries p es
    ask refuses (.removeDirectory p)
    modify (FileTree.erase p.segments)

/-- Removes entries of the directory at a path. -/
def removeEntries (p : Path) : List (String × FileTree) → Change Unit
  | [] => return
  | (name, t) :: es => do
    remove (p.below [name]) t
    removeEntries p es

end

end Change

/-! ## Names that are too long -/

/-- Do segments lead to a name that is longer than a limit, in bytes? -/
def FileTree.leadsTooFar (limit : Nat) : FileTree → List String → Bool
  | .directory es, s :: rest =>
    limit < s.utf8ByteSize ||
      match es.lookup s with
      | some inner => leadsTooFar limit inner rest
      | none => false
  | _, _ => false

/-- The path that an operation is about. -/
def FileOperation.path? : FileOperation → Option Path
  | look p | list p | removeFile p | removeDirectory p | makeDirectory p | openFile p | write p => some p
  | readTemplate => none

/-- Refuses operations at paths with names that are too long. -/
def refusesLongNames (limit : Nat) : Refusals := fun t op =>
  match op.path? with
  | some p =>
    if t.leadsTooFar limit p.segments then some ("[Errno 36] File name too long: " ++ quoted p.text)
    else none
  | none => none

end Specifiers
