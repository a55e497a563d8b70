import Specifiers.Command.Outcome
import Specifiers.Command.Request
import Specifiers.Dependency
import Specifiers.Settings.Template

/-!
# Running commands

Each command as a function from the host to an outcome. Only `init` changes files.
-/

namespace Specifiers

namespace Command

open Console (escape)

/-! ## Listings -/

/-- The specifiers of a listing, without repeats if that is wanted. -/
def shownSpecifiers (unique : Bool) (l : Listing) : List String :=
  if unique then l.unique else l.specifiers

/-- A listing as a tree. -/
def listingTree (unique : Bool) (l : Listing) : Tree :=
  .object [("specifiers", .list ((shownSpecifiers unique l).map .text)), ("isModule", .bool l.isModule)]

/-- The messages for a listing: a heading, and the specifiers. -/
def listingMessages (label : String) (unique : Bool) (l : Listing) : List String :=
  let specifiers := shownSpecifiers unique l
  ("[bold]" ++ escape label ++ "[/bold] [dim](" ++ (if l.isModule then "module" else "script") ++
      ")[/dim]") ::
    ((if specifiers.isEmpty then ["  [dim]no specifiers[/dim]"] else []) ++
      specifiers.map fun s => "  " ++ escape s)

/-! ## The commands -/

/-- The outcome for a file that cannot be analysed. -/
def analysisFailure (host : Host) (path : Path) (e : AnalysisError) : Outcome :=
  match e with
  | .file { fault := .missing, .. } =>
    .printing host ["[bold red]File not found:[/bold red] " ++ escape path.text] 1
  | .parse _ => .printing host ["[bold red]Parse error:[/bold red] " ++ escape e.message] 1
  | .file _ | .encodingName _ =>
    .printing host
      ["[bold red]Cannot read " ++ escape path.text ++ ":[/bold red] " ++ escape e.message] 1
  | .nulInName | .decoding _ | .fault _ => .broken host (.analysis e)

/-- Lists the specifiers of a file. -/
def extract (host : Host) (file : String) (asJson unique : Bool) (encoding : String) : Outcome :=
  let path := Path.ofString file
  let a := analyze host encoding path
  Outcome.noting a.notices (match a.result with
    | .ok l =>
      if asJson then .json host (listingTree unique l)
      else .printing host (listingMessages path.text unique l)
    | .error e => analysisFailure host path e)

/-- A report as a tree. -/
def reportTree (r : Report) : Tree :=
  .object
    [("root", .text r.root.text),
      ("files", .object (r.results.map fun f => (f.1, listingTree false f.2))),
      ("failures", .object (r.failures.map fun f => (f.1, .text f.2)))]

/-- The messages for a report. -/
def reportMessages (unique : Bool) (r : Report) : List String :=
  let modules := (r.results.filter fun f => f.2.isModule).length
  (r.results.flatMap fun f => listingMessages f.1 unique f.2) ++
    (if r.failures.isEmpty then []
    else
      ("\n[bold red]" ++ toString r.failures.length ++ " file(s) could not be parsed:[/bold red]") ::
        r.failures.map fun f => "  [red]" ++ escape f.1 ++ "[/red]: " ++ escape f.2) ++
    ["\n[green]Scanned " ++ toString r.results.length ++ " file(s)[/green] [dim](" ++
      toString modules ++ " module, " ++ toString (r.results.length - modules) ++ " script)[/dim]"]

/-- The outcome for a scan without a report. -/
def scanFailure (host : Host) (e : ScanError) : Outcome :=
  let unreadable := .printing host ["[bold red]Cannot read:[/bold red] " ++ escape e.message] 1
  match e with
  | .notDirectory _ => unreadable
  | .analysis cause =>
    match cause with
    | .parse _ => .printing host ["[bold red]Parse error:[/bold red] " ++ escape e.message] 1
    | .file _ | .encodingName _ => unreadable
    | .nulInName | .decoding _ | .fault _ => .broken host (.analysis cause)

/-- Scans a project that has been loaded. Unless the report is wanted as JSON, an empty line comes
first. -/
def scanProject (host : Host) (p : Project) (asJson unique : Bool) : Outcome :=
  let s := p.scan host
  let reported := match s.result with
    | .ok r =>
      let exit := if r.ok then 0 else 1
      if asJson then Outcome.json host (reportTree r) exit
      else .printing host (reportMessages unique r) exit
    | .error e => scanFailure host e
  (if asJson then reported else reported.after "\n").noting s.notices

/-- Lists the specifiers of the files of a project. -/
def scan (host : Host) (repo : String) (extensions : List String) (failFast : Option Bool)
    (asJson unique : Bool) : Outcome :=
  let root := (Path.ofString repo).resolve host.here
  if host.hasDirectory root then
    match Settings.load host.toFileSystem (Settings.projectFile root)
      (Settings.overrides (some extensions) failFast) with
    | .error e => .broken host (.settings e)
    | .ok settings =>
      match Project.load host root settings with
      | .error e => .broken host (.patterns e)
      | .ok (project, notices) => (scanProject host project asJson unique).noting notices
  else .printing host ["[bold red]Not a directory:[/bold red] " ++ escape root.text] 1

/-- Reads a dependency query. -/
def deps (host : Host) (query : String) (asJson : Bool) : Outcome :=
  match Dependency.parse query with
  | .error e => .printing host ["[bold red]Invalid query:[/bold red] " ++ escape e.message] 2
  | .ok dependencies =>
    if asJson then .json host (.object (dependencies.map fun d => (d.1, .text d.2)))
    else .printing host
      ((dependencies.map fun d =>
          escape d.1 ++ " [dim]@[/dim] [bold]" ++ escape d.2 ++ "[/bold]") ++
        ["\n[dim]Query:[/dim] " ++ escape (Dependency.format dependencies)])

/-! ## Making settings -/

/-- The directory for the settings of a project, with the file that a project starts with. -/
def settingsDirectory : FileTree :=
  .directory [(Settings.fileName, .file (Utf8.encode Settings.template.toList))]

/-- Reads the file of settings that projects start with. -/
def readTemplate (host : Host) : Change Unit :=
  tryCatch (Change.ask host.refuses .readTemplate) fun _ => throw (.noTemplate host.templatePath)

/-- Makes a directory for settings, with those above it that are missing, and writes the file of settings
into it. -/
def writeSettings (host : Host) (directory : Path) : Change Unit := do
  let file := directory.below [Settings.fileName]
  Change.makeDirectories host.refuses directory.anchor directory.segments.reverse
  readTemplate host
  Change.openFile host.refuses file
  Change.write host.refuses file (Utf8.encode Settings.template.toList)

/-- Makes the file of settings in a directory of its own, which is not there yet. When that ends with an
error, what has been made stays. -/
def makeSettings (host : Host) (directory : Path) : Outcome :=
  match (writeSettings host directory).run host.tree with
  | .ok _ tree =>
    .printing (host.withTree tree)
      ["[green]Initialized jsreq in " ++ directory.text ++ "[/green]",
        "Configuration created at: " ++ (directory.below [Settings.fileName]).text]
  | .error e tree =>
    .printing (host.withTree tree) ["[bold red]Failed to initialize:[/bold red] " ++ e.message] 1

/-- Removes a directory for settings, and makes it anew. -/
def replaceSettings (host : Host) (directory : Path) (old : FileTree) : Outcome :=
  if old.isDirectory then
    match (Change.remove host.refuses directory old).run host.tree with
    | .ok _ tree => makeSettings (host.withTree tree) directory
    | .error e tree => .broken (host.withTree tree) (.change e)
  else .broken host (.notRemovable directory.text)

/-- Makes the file of settings of a project. A directory for settings that is there already stays as it
is, unless it is to be overwritten. -/
def init (host : Host) (repo : String) (overwrite : Bool) : Outcome :=
  let root := (Path.ofString repo).resolve host.here
  let directory := root.below [Settings.directoryName]
  match (Change.look? host.refuses directory).run host.tree with
  | .error e _ => .broken host (.change e)
  | .ok none _ => makeSettings host directory
  | .ok (some old) _ =>
    if overwrite then
      match Console.line host.display
          ("[yellow]Overwriting existing jsreq configuration in " ++ root.text ++ "...[/yellow]") with
      | .error e => .broken host (.markup e)
      | .ok output => (replaceSettings host directory old).after output
    else .printing host
      ["[yellow]jsreq is already initialized in " ++ root.text ++ "[/yellow]",
        "[dim]Use --overwrite to re-initialize.[/dim]"]

/-! ## Running requests -/

/-- The version. -/
def versionText : String := "0.1.0"

/-- Runs a request. -/
def Request.run (host : Host) : Request → Outcome
  | .init repo overwrite => Command.init host repo overwrite
  | .extract file asJson unique encoding => Command.extract host file asJson unique encoding
  | .scan repo extensions failFast asJson unique =>
    Command.scan host repo extensions failFast asJson unique
  | .deps query asJson => Command.deps host query asJson
  | .version => .printing host ["jsreq version: [bold]" ++ versionText ++ "[/bold]"]

/-- The number with which a command line ends that cannot be understood. -/
def usageExit : Nat := 2

/-- Runs the command line that arguments spell. One that cannot be understood puts out nothing. -/
def run (host : Host) (args : List String) : Outcome :=
  match CommandLine.parse args with
  | some (.run _ request) => request.run host
  | some .help => { files := host }
  | none => { files := host, exit := usageExit }

end Command

end Specifiers
