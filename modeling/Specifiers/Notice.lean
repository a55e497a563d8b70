/-!
# Notices

What the library has to say while it works, apart from its results. A notice is a cause; its wording
and its weight are given here, and where it goes is for the outer layer to decide.
-/

namespace Specifiers

/-- How much a notice matters. -/
inductive Weight
  | debug
  | info
  | warning
  deriving DecidableEq, Repr

/-- The name of a weight. -/
def Weight.name : Weight → String
  | debug => "DEBUG"
  | info => "INFO"
  | warning => "WARNING"

/-- A notice. -/
inductive Notice
  /-- A text is no script; the module grammar is tried. -/
  | scriptRejected (message : String)
  /-- A file has been analysed. -/
  | analyzed (specifiers : Nat) (path : String) (isModule : Bool)
  /-- The file with the patterns to ignore cannot be read. -/
  | ignoreFileUnreadable (path message : String)
  /-- A file is left out of a report. -/
  | skipped (path message : String)
  /-- A scan has ended. -/
  | scanned (files : Nat) (root : String) (failed : Nat)
  deriving DecidableEq, Repr

/-- How much a notice matters. -/
def Notice.weight : Notice → Weight
  | scriptRejected _ | analyzed _ _ _ => .debug
  | ignoreFileUnreadable _ _ | skipped _ _ => .warning
  | scanned _ _ _ => .info

/-- The wording of a notice. -/
def Notice.wording : Notice → String
  | scriptRejected message =>
    "Script grammar rejected source (" ++ message ++ "), retrying as module"
  | analyzed specifiers path isModule =>
    "Extracted " ++ toString specifiers ++ " specifier(s) from " ++ path ++ " (module=" ++
      (if isModule then "True" else "False") ++ ")"
  | ignoreFileUnreadable path message => "Could not read " ++ path ++ ": " ++ message
  | skipped path message => "Skipping " ++ path ++ ": " ++ message
  | scanned files root failed =>
    "Scanned " ++ toString files ++ " file(s) under " ++ root ++ ", " ++ toString failed ++ " failed"

end Specifiers
