/-!
# The two grammars

A text is read as a script or as a module. A module is strict, and it can import and export.
-/

namespace Specifiers

namespace Grammar

/-- The grammars of whole programs. -/
inductive Mode
  | script
  | module'
  deriving DecidableEq, Repr, Inhabited

/-- The name of a grammar. -/
def Mode.name : Mode → String
  | script => "script"
  | module' => "module"

end Grammar

end Specifiers
