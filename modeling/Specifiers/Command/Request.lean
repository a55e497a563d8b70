import Specifiers.Command.Arguments

/-!
# Requests

What a command line asks for.
-/

namespace Specifiers

namespace Command

/-- A command with its options. -/
inductive Request
  /-- Makes the file of settings of a project. -/
  | init (repo : String) (overwrite : Bool)
  /-- Lists the specifiers of a file. -/
  | extract (file : String) (asJson unique : Bool) (encoding : String)
  /-- Lists the specifiers of the files of a project. -/
  | scan (repo : String) (extensions : List String) (failFast : Option Bool) (asJson unique : Bool)
  /-- Reads a dependency query. -/
  | deps (query : String) (asJson : Bool)
  /-- Tells the version. -/
  | version
  deriving DecidableEq, Repr

/-- A command line that can be understood: a request, or the question what can be requested. -/
inductive CommandLine
  | run (verbose : Bool) (request : Request)
  | help
  deriving DecidableEq, Repr

/-- The option that every command has. -/
def helpOption : OptionSpec := { key := "help", word := "--help" }

/-- The options before a command. -/
def mainOptions : List OptionSpec :=
  [helpOption, { key := "verbose", word := "--verbose", letter := some 'v' }]

def repoOption : OptionSpec := { key := "repo", word := "--repo", hasValue := true }

def jsonOption : OptionSpec := { key := "json", word := "--json" }

def uniqueOption : OptionSpec := { key := "unique", word := "--unique", letter := some 'u' }

/-- The options of a command, if there is one of that name. -/
def optionsOf? : String → Option (List OptionSpec)
  | "init" =>
    some [helpOption, repoOption, { key := "overwrite", word := "--overwrite", letter := some 'f' }]
  | "extract" =>
    some [helpOption, jsonOption, uniqueOption,
      { key := "encoding", word := "--encoding", hasValue := true }]
  | "scan" =>
    some [helpOption, repoOption, jsonOption, uniqueOption,
      { key := "ext", word := "--ext", hasValue := true },
      { key := "fail-fast", word := "--fail-fast" }, { key := "keep-going", word := "--keep-going" }]
  | "deps" => some [helpOption, jsonOption]
  | "version" => some [helpOption]
  | _ => none

/-- The request of a command with its arguments, if it has the operands that it needs and no others. -/
def request? (name : String) (a : Arguments) : Option Request :=
  match name, a.operands with
  | "init", [] => some (.init (a.value "repo" ".") (a.has "overwrite"))
  | "extract", [file] =>
    some (.extract file (a.has "json") (a.has "unique") (a.value "encoding" "utf-8"))
  | "scan", [] =>
    some (.scan (a.value "repo" ".") (a.values "ext") (a.lastOf "fail-fast" "keep-going")
      (a.has "json") (a.has "unique"))
  | "deps", [query] => some (.deps query (a.has "json"))
  | "version", [] => some .version
  | _, _ => none

/-- The command line that arguments spell, if they spell one. -/
def CommandLine.parse (args : List String) : Option CommandLine := do
  let main ← readArguments mainOptions true args
  if main.has "help" then return .help
  match main.operands with
  | [] => none
  | name :: rest =>
    let a ← readArguments (← optionsOf? name) false rest
    if a.has "help" then return .help
    return .run (main.has "verbose") (← request? name a)

end Command

end Specifiers
