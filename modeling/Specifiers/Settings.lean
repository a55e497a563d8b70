/-!
# Settings

What can be set for a project: which files are filtered out, and how the others are scanned.
-/

namespace Specifiers

/-- Which files are filtered out: those that one of the patterns to exclude selects, unless one of the
patterns to keep does. -/
structure FilterSettings where
  exclude : List String := []
  keep : List String := []
  deriving DecidableEq, Repr, Inhabited

/-- How files are scanned: the suffixes of source files, their encoding, and whether the first failure
ends the scan. -/
structure ScanSettings where
  extensions : List String := [".js", ".mjs", ".cjs"]
  encoding : String := "utf-8"
  failFast : Bool := false
  deriving DecidableEq, Repr, Inhabited

/-- The settings of a project. -/
structure Settings where
  filter : FilterSettings := {}
  scan : ScanSettings := {}
  deriving DecidableEq, Repr, Inhabited

end Specifiers
