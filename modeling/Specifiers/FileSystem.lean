import Specifiers.FileTree

/-!
# File systems

A file tree with the directory from which relative paths start and the home of the user. Errors name
a path as it was given.
-/

namespace Specifiers

/-- A file tree as someone sees it who stands in a directory of it. -/
structure FileSystem where
  tree : FileTree
  here : Path
  home : Path
  deriving Inhabited

namespace FileSystem

/-- The segments, from the root of the tree, that a path leads along. -/
def segmentsOf (fs : FileSystem) (p : Path) : List String := (p.from' fs.here).segments

/-- What stands at a path. -/
def at? (fs : FileSystem) (p : Path) : Option FileTree := fs.tree.at? (fs.segmentsOf p)

/-- Is there anything at a path? -/
def hasEntry (fs : FileSystem) (p : Path) : Bool := (fs.at? p).isSome

/-- Is there a directory at a path? -/
def hasDirectory (fs : FileSystem) (p : Path) : Bool := (fs.at? p).any FileTree.isDirectory

/-- The bytes of the file at a path. -/
def read (fs : FileSystem) (p : Path) : Except FileError (List UInt8) :=
  (fs.tree.read (fs.segmentsOf p)).mapError fun fault => ⟨fault, p.text⟩

/-- The file system with a tree at a path, and directories on the way there. -/
def put (fs : FileSystem) (p : Path) (new : FileTree) : FileSystem :=
  { fs with tree := FileTree.put new (fs.segmentsOf p) fs.tree }

/-- The segments, from a directory, of the files below it. -/
def filesBelow (fs : FileSystem) (p : Path) : List (List String) :=
  match fs.at? p with
  | some (.directory es) => FileTree.filesOf [] es
  | _ => []

end FileSystem

end Specifiers
