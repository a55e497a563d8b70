import Specifiers.FileSystem
import Specifiers.Ignore.Source
import Specifiers.Notice
import Specifiers.Text.Lowercase

/-!
# Which files of a project are sources

A filter belongs to the root of a project. Patterns to include win; then come the patterns to exclude,
those of every project, and those of the project's own file of patterns. What lies outside the root is
always ignored.
-/

namespace Specifiers

namespace Ignore

/-- The patterns that every project excludes. -/
def standardPatterns : List String :=
  [".git/", "node_modules/", "bower_components/", "jspm_packages/", "build/", "dist/", "coverage/",
    "*.min.js", "*.map", ".DS_Store", ".jsreq/"]

/-- The name of a project's file of patterns. -/
def fileName : String := ".gitignore"

/-- The filter of a project. -/
structure Filter where
  root : Path
  included : Rules
  excluded : Rules
  standard : Rules
  own : Option Rules
  deriving DecidableEq, Repr

/-- The rules that patterns spell. -/
def rulesOf (patterns : List String) : Except SourceError Rules :=
  (Rules.ofLines (patterns.map String.toList)).mapError .pattern

/-- The rules of a project's own file of patterns: none when there is no file, and none with a notice
when there is something else in its place. -/
def ownRules (fs : FileSystem) (root : Path) : Except SourceError (Option Rules × List Notice) :=
  let path := root.below [fileName]
  match fs.read path with
  | .ok bytes => (Rules.ofBytes bytes).map fun rules => (some rules, [])
  | .error e =>
    .ok (none, if fs.hasEntry path then [.ignoreFileUnreadable path.text e.message] else [])

/-- The filter of the project at a root, and what is worth noting about it. -/
def Filter.load (fs : FileSystem) (root : Path) (exclude keep : List String) :
    Except SourceError (Filter × List Notice) := do
  let (own, notices) ← ownRules fs root
  let standard ← rulesOf standardPatterns
  let excluded ← rulesOf exclude
  let included ← rulesOf keep
  return ({ root, included, excluded, standard, own }, notices)

namespace Filter

/-- Is a path relative to the root ignored? -/
def ignoresRelative (f : Filter) (path : String) : Bool :=
  !f.included.selects path &&
    (f.excluded.selects path || f.standard.selects path || f.own.any (·.selects path))

/-- Is a path ignored? A relative one is meant from the root. -/
def ignores (f : Filter) (p : Path) : Bool :=
  if p.absolute then
    match p.relativeTo? f.root with
    | some segments => f.ignoresRelative (Path.relativeText segments)
    | none => true
  else f.ignoresRelative (Path.relativeText p.segments)

/-- Does the path come before the other one? Paths are compared segment by segment. -/
def before : List String → List String → Bool
  | [], _ => true
  | _ :: _, [] => false
  | a :: as, b :: bs => if a == b then before as bs else decide (a < b)

/-- Has a file one of the suffixes, in any case? Without suffixes every file is wanted. -/
def hasSuffix (extensions : Option (List String)) (segments : List String) : Bool :=
  match extensions with
  | none => true
  | some es =>
    (es.map lowercase).contains (lowercase (Path.suffixOf (segments.getLast?.getD "")))

/-- The segments of the files below the root that are not ignored, in order. -/
def sources (f : Filter) (fs : FileSystem) (extensions : Option (List String)) :
    List (List String) :=
  ((fs.filesBelow f.root).mergeSort before).filter fun segments =>
    hasSuffix extensions segments && !f.ignores (f.root.below segments)

end Filter

end Ignore

end Specifiers
