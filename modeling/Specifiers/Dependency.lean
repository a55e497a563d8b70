import Specifiers.Table
import Specifiers.Text.PercentEncoding
import Specifiers.Text.Quoted
import Specifiers.Text.Split

/-!
# Dependency queries

A query names packages with their versions: entries `name@version` with `+` between them, possibly
percent-encoded and after a slash. An entry is split at its last `@`, so a name can start with one. A
name that comes again keeps its place and takes the later version.
-/

namespace Specifiers

namespace Dependency

/-- An entry that lacks a name or a version. -/
structure InvalidEntry where
  entry : String
  deriving DecidableEq, Repr

/-- The wording of the complaint about an entry. -/
def InvalidEntry.message (e : InvalidEntry) : String :=
  "Invalid dependency " ++ quoted e.entry ++ ": expected name@version"

/-- The name and the version of an entry. -/
def entry? (cs : List Char) : Option (String × String) :=
  match Split.atLast? '@' cs with
  | some (name, version) =>
    if name.isEmpty || version.isEmpty then none
    else some (String.ofList name, String.ofList version)
  | none => none

/-- The entries of a query in the order of the text. -/
def entries : List (List Char) → Except InvalidEntry (List (String × String))
  | [] => .ok []
  | cs :: rest =>
    match entry? cs with
    | some e => (entries rest).map (e :: ·)
    | none => .error ⟨String.ofList cs⟩

/-- The characters of a query after its leading slash. -/
def withoutSlash : List Char → List Char
  | '/' :: cs => cs
  | cs => cs

/-- The packages of a query, with their versions. -/
def parse (query : String) : Except InvalidEntry (Table String) :=
  let decoded := withoutSlash (PercentEncoding.decode query.toList)
  (entries (Split.pieces '+' decoded)).map Table.ofEntries

/-- The query that names packages with their versions. -/
def format (dependencies : Table String) : String :=
  "+".intercalate (dependencies.map fun d => d.1 ++ "@" ++ d.2)

end Dependency

end Specifiers
