import Specifiers.Ignore.Filter
import Specifiers.Settings
import Specifiers.SourceFile

/-!
# Scanning a project

A project is a root directory with settings. Its scan analyses the sources one after the other, in the
order of their segments, and reports a listing or a failure for each. A scan that keeps going stops
only for an error that is not local to a file; one that fails fast stops for every error.
-/

namespace Specifiers

/-- A project whose filter has been loaded. -/
structure Project where
  root : Path
  settings : Settings
  filter : Ignore.Filter

/-- What a scan has found: under the name of each source its listing, or the wording of its failure. -/
structure Findings where
  results : Table Listing := []
  failures : Table String := []
  deriving DecidableEq, Repr

/-- The findings of the project at a root. -/
structure Report extends Findings where
  root : Path
  deriving DecidableEq, Repr

/-- Has no source failed? -/
def Findings.ok (f : Findings) : Bool := f.failures.isEmpty

/-- Why a scan has no report. -/
inductive ScanError
  | notDirectory (root : Path)
  | analysis (e : AnalysisError)
  deriving DecidableEq, Repr

/-- The wording of the error. -/
def ScanError.message : ScanError → String
  | notDirectory root => "Not a directory: " ++ root.text
  | analysis e => e.message

/-- A scan with what was worth noting on the way. -/
structure Scan where
  notices : List Notice
  result : Except ScanError Report

namespace Project

/-- The project at a root, and what is worth noting about it. -/
def load (host : Host) (root : Path) (settings : Settings) :
    Except Ignore.SourceError (Project × List Notice) := do
  let (filter, notices) ←
    Ignore.Filter.load host.toFileSystem root settings.filter.exclude settings.filter.keep
  return ({ root, settings, filter }, notices)

/-- The segments of the sources of a project, in order. -/
def sources (p : Project) (host : Host) : List (List String) :=
  p.filter.sources host.toFileSystem (some p.settings.scan.extensions)

/-- The analysis of a source of a project. -/
def analyze (p : Project) (host : Host) (segments : List String) : Analysis :=
  Specifiers.analyze host p.settings.scan.encoding (p.root.below segments)

/-- The findings with those of further sources, one after the other. -/
def collect (analyze : List String → Analysis) (failFast : Bool) (found : Findings) :
    List (List String) → List Notice × Except AnalysisError Findings
  | [] => ([], .ok found)
  | source :: rest =>
    let name := Path.relativeText source
    let a := analyze source
    match a.result with
    | .ok l =>
      let (notices, all) :=
        collect analyze failFast { found with results := found.results.insert name l } rest
      (a.notices ++ notices, all)
    | .error e =>
      if e.isLocal && !failFast then
        let (notices, all) :=
          collect analyze failFast { found with failures := found.failures.insert name e.message } rest
        (a.notices ++ .skipped name e.message :: notices, all)
      else (a.notices, .error e)

/-- The scan of a project. -/
def scan (p : Project) (host : Host) : Scan :=
  if host.hasDirectory p.root then
    let (notices, found) := collect (p.analyze host) p.settings.scan.failFast {} (p.sources host)
    match found with
    | .ok f =>
      ⟨notices ++ [.scanned (f.results.length + f.failures.length) p.root.text f.failures.length],
        .ok { f with root := p.root }⟩
    | .error e => ⟨notices, .error (.analysis e)⟩
  else ⟨[], .error (.notDirectory p.root)⟩

end Project

end Specifiers
