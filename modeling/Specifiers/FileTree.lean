import Specifiers.Path
import Specifiers.Table
import Specifiers.Text.Quoted

/-!
# File trees

A file system without links: files with their bytes, and directories with their entries. A path is
followed from the root; what cannot be followed, read or written is an error that names the path.
-/

namespace Specifiers

/-- A file with its bytes, or a directory with its entries. -/
inductive FileTree
  | file (bytes : List UInt8)
  | directory (entries : List (String × FileTree))
  deriving Inhabited

/-- Why a file or a directory cannot be used or made. -/
inductive FileFault
  | missing
  | alreadyThere
  | notDirectory
  | isDirectory
  deriving DecidableEq, Repr

/-- A fault with the path for which it arose. -/
structure FileError where
  fault : FileFault
  path : String
  deriving DecidableEq, Repr

/-- The number of a fault and its wording. -/
def FileFault.wording : FileFault → String
  | missing => "[Errno 2] No such file or directory"
  | alreadyThere => "[Errno 17] File exists"
  | notDirectory => "[Errno 20] Not a directory"
  | isDirectory => "[Errno 21] Is a directory"

/-- The wording of an error. -/
def FileError.message (e : FileError) : String := e.fault.wording ++ ": " ++ quoted e.path

namespace FileTree

/-- Is it a directory? -/
def isDirectory : FileTree → Bool
  | directory _ => true
  | file _ => false

/-- The entries of a directory; a file has none. -/
def entries : FileTree → Table FileTree
  | directory es => es
  | file _ => []

/-- Follows segments; `above` holds the directories on the way, the innermost first. -/
def follow (above : List FileTree) (here : FileTree) : List String → Except FileFault FileTree
  | [] => .ok here
  | s :: rest =>
    match here with
    | file _ => .error .notDirectory
    | directory es =>
      if s == ".." then
        match above with
        | outer :: above => follow above outer rest
        | [] => follow [] here rest
      else match es.lookup s with
        | some inner => follow (here :: above) inner rest
        | none => .error .missing

/-- What stands at segments below a directory. -/
def at? (t : FileTree) (segments : List String) : Option FileTree :=
  (follow [] t segments).toOption

/-- The bytes of the file at segments. -/
def read (t : FileTree) (segments : List String) : Except FileFault (List UInt8) :=
  match follow [] t segments with
  | .ok (file bytes) => .ok bytes
  | .ok (directory _) => .error .isDirectory
  | .error e => .error e

/-- Puts a tree at segments, and directories on the way there. -/
def put (new : FileTree) : List String → FileTree → FileTree
  | [], _ => new
  | s :: rest, t =>
    directory (Table.insert s (put new rest ((t.entries.lookup s).getD (directory []))) t.entries)

/-- Takes out what stands at segments. -/
def erase : List String → FileTree → FileTree
  | _, file bytes => file bytes
  | [], directory es => directory es
  | [s], directory es => directory (es.filter (·.1 != s))
  | s :: rest, directory es =>
    match es.lookup s with
    | some inner => directory (Table.insert s (erase rest inner) es)
    | none => directory es

/-- Why nothing can be made at segments, if there is a reason: what is above is no directory. -/
def faultAbove? (t : FileTree) (segments : List String) : Option FileFault :=
  match follow [] t segments.dropLast with
  | .ok (directory _) => none
  | .ok (file _) => some .notDirectory
  | .error fault => some fault

mutual

/-- The segments of the files below, in the order of the entries; `below` holds the segments on the
way, the last first. -/
def files (below : List String) : FileTree → List (List String)
  | file _ => [below.reverse]
  | directory es => filesOf below es

/-- The segments of the files below the entries of a directory. -/
def filesOf (below : List String) : List (String × FileTree) → List (List String)
  | [] => []
  | (name, t) :: es => files (name :: below) t ++ filesOf below es

end

end FileTree

end Specifiers
