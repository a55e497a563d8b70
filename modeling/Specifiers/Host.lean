import Specifiers.Console.Display
import Specifiers.FileChange
import Specifiers.FileSystem
import Specifiers.Text.Encoding

/-!
# Hosts

What a command finds where it runs: the files, and the limits and the abilities of the machine and of the
libraries on it.
-/

namespace Specifiers

/-- A file system with its surroundings. -/
structure Host extends FileSystem where
  /-- The codecs that are registered besides the known ones. -/
  codecs : Codec.Registry
  /-- How many levels of goals a parser can go down. -/
  levels : Nat
  display : Console.Display
  refuses : Refusals
  /-- Where the file of settings stands that projects start with. -/
  templatePath : String

namespace Host

/-- The host with another file tree. -/
def withTree (host : Host) (tree : FileTree) : Host := { host with tree }

/-- A host that is seen from the root of a file tree. There are no other codecs than the known ones, no line
is too long for its display, and it refuses nothing. -/
def ofTree (tree : FileTree) : Host where
  tree := tree
  here := ⟨.root, []⟩
  home := ⟨.root, []⟩
  codecs _ := none
  levels := 400
  display := .endless
  refuses _ _ := none
  templatePath := ""

end Host

end Specifiers
