import Specifiers.Command.Run
import Specifiers.Proofs.Project.FailFast
import Specifiers.Proofs.Settings.Layers

/-!
# How a scan ends on the command line

Whether a scan fails fast or keeps going makes no difference to the number with which it ends, nor to
what it puts out when that number tells of success (`EndsAlike`): the number tells whether some source
failed or something else went wrong, and both kinds of scan tell that alike.
-/

namespace Specifiers

namespace Command

/-- Do two outcomes end with the same number, and with the same output when it tells of success? -/
structure EndsAlike (a b : Outcome) : Prop where
  exit : a.exit = b.exit
  output : b.exit = 0 → a.output = b.output

namespace EndsAlike

variable {a b : Outcome}

theorem refl (a : Outcome) : EndsAlike a a := ⟨rfl, fun _ => rfl⟩

/-- Outcomes that do not tell of success end alike. -/
theorem of_exit_one (ha : a.exit = 1) (hb : b.exit = 1) : EndsAlike a b where
  exit := ha.trans hb.symm
  output h := absurd (hb.symm.trans h) (by decide)

/-- Notices do not tell outcomes apart. -/
theorem noting (h : EndsAlike a b) (ns ms : List Notice) : EndsAlike (a.noting ns) (b.noting ms) :=
  ⟨h.exit, h.output⟩

/-- Neither does what is put out before both. -/
theorem after (h : EndsAlike a b) (output : String) : EndsAlike (a.after output) (b.after output) where
  exit := h.exit
  output hb := congrArg (output ++ ·) (h.output hb)

end EndsAlike

/-! ## Scans that have been loaded -/

section Reported

variable (host : Host) (asJson unique : Bool)

/-- The outcome of what a scan comes to. -/
def reported : Except ScanError Report → Outcome
  | .ok r =>
    let exit := if r.ok then 0 else 1
    if asJson then Outcome.json host (reportTree r) exit
    else .printing host (reportMessages unique r) exit
  | .error e => scanFailure host e

/-- A scan tells what it comes to, after an empty line when it is not put out as a tree. -/
theorem scanProject_eq (p : Project) : scanProject host p asJson unique =
    (if asJson then reported host asJson unique (p.scan host).result
      else (reported host asJson unique (p.scan host).result).after "\n").noting (p.scan host).notices :=
  rfl

/-- Messages that tell of a failure do so also when they cannot be put out. -/
theorem exit_printing_one (messages : List String) : (Outcome.printing host messages 1).exit = 1 := by
  unfold Outcome.printing
  split <;> rfl

/-- A scan that breaks off does not tell of success. -/
theorem exit_scanFailure (e : ScanError) : (scanFailure host e).exit = 1 := by
  unfold scanFailure
  cases e with
  | notDirectory root =>
    dsimp only
    exact exit_printing_one host _
  | analysis cause =>
    cases cause with
    | file | encodingName | parse =>
      dsimp only
      exact exit_printing_one host _
    | nulInName | decoding | fault => rfl

/-- Neither does a report with failures. -/
theorem exit_reported_of_failures {r : Report} (h : r.ok = false) :
    (reported host asJson unique (.ok r)).exit = 1 := by
  simp only [reported, h]
  cases asJson with
  | true => rfl
  | false => exact exit_printing_one host _

variable {host} {p : Project}

/-- Scans of a project end alike, whether they fail fast or keep going. -/
theorem endsAlike_scanProject (tree : host.tree.WellFormed) :
    EndsAlike (scanProject host (p.failing true) asJson unique)
      (scanProject host (p.failing false) asJson unique) := by
  have hreported : EndsAlike (reported host asJson unique ((p.failing true).scan host).result)
      (reported host asJson unique ((p.failing false).scan host).result) := by
    have hscans := Project.failsFast (p := p) tree
    -- a run that goes on ends in one of three ways, and each fixes how one that stops at once ends
    cases hkeep : ((p.failing false).scan host).result with
    | ok r =>
      cases hok : r.ok with
      | true =>
        rw [hscans.good r hkeep hok]
        exact .refl _
      | false =>
        obtain ⟨source, e, -, hfast, -⟩ := hscans.failed r hkeep hok
        rw [hfast]
        exact .of_exit_one (exit_scanFailure host _) (exit_reported_of_failures host asJson unique hok)
    | error e =>
      have hfast : ∃ e', ((p.failing true).scan host).result = .error e' := by
        cases e with
        | notDirectory root => exact ⟨_, hscans.noRoot root hkeep⟩
        | analysis e =>
          obtain ⟨source, -, -, -, hfast | ⟨earlier, e', -, -, -, hfast⟩⟩ := hscans.broken e hkeep
          · exact ⟨_, hfast⟩
          · exact ⟨_, hfast⟩
      obtain ⟨e', hfast⟩ := hfast
      rw [hfast]
      exact .of_exit_one (exit_scanFailure host _) (exit_scanFailure host _)
  rw [scanProject_eq, scanProject_eq]
  cases asJson with
  | true => exact hreported.noting _ _
  | false => exact (hreported.after "\n").noting _ _

end Reported

/-! ## Scans that have been requested -/

/-- Loading a project has no regard to what the first failure does. -/
theorem load_failing (host : Host) (root : Path) (s : Settings) (failFast : Bool) :
    Project.load host root { s with scan := { s.scan with failFast } } =
      (Project.load host root s).map fun loaded => (loaded.1.failing failFast, loaded.2) := by
  unfold Project.load
  cases Ignore.Filter.load host.toFileSystem root s.filter.exclude s.filter.keep <;> rfl

/-- Scans end alike, whether it is asked for that they fail fast or that they keep going. -/
theorem endsAlike_scan {host : Host} (tree : host.tree.WellFormed) (repo : String)
    (extensions : List String) (asJson unique : Bool) :
    EndsAlike (scan host repo extensions (some true) asJson unique)
      (scan host repo extensions (some false) asJson unique) := by
  let root := (Path.ofString repo).resolve host.here
  unfold scan
  by_cases hroot : host.hasDirectory root = true
  · rw [if_pos hroot, if_pos hroot]
    cases hkeep : Settings.load host.toFileSystem (Settings.projectFile root)
        (Settings.overrides (some extensions) (some false)) with
    | error e =>
      -- the layers are refused in both cases, or the same settings would load with either flag
      cases hfast : Settings.load host.toFileSystem (Settings.projectFile root)
          (Settings.overrides (some extensions) (some true)) with
      | error e' => exact .of_exit_one rfl rfl
      | ok s =>
        have hload := (Settings.load_failFast (some extensions) hfast).2 false
        exact absurd (hkeep.symm.trans hload) (by simp)
    | ok s =>
      obtain ⟨-, hload⟩ := Settings.load_failFast (some extensions) hkeep
      rw [← hkeep, hload true, hload false]
      dsimp only
      rw [load_failing host root s true, load_failing host root s false]
      cases Project.load host root s with
      | error e => exact .refl _
      | ok loaded => exact (endsAlike_scanProject asJson unique tree).noting _ _
  · rw [if_neg hroot, if_neg hroot]
    exact .refl _

/-! ## Scans on the command line -/

section Arguments

variable {a : Arguments} {uses : List (String × String)} {key : String}

/-- The use of one option does not count as the use of another. -/
theorem has_withUses (h : ∀ u ∈ uses, u.1 ≠ key) : (a.withUses uses).has key = a.has key := by
  have hnone : (uses.any fun u => u.1 == key) = false := by simpa using h
  simp [Arguments.has, Arguments.withUses, List.any_append, hnone]

/-- The use of one option gives no values to another. -/
theorem values_withUses (h : ∀ u ∈ uses, u.1 ≠ key) :
    (a.withUses uses).values key = a.values key := by
  have hnone : (uses.filter fun u => u.1 == key) = [] := by simpa using h
  simp [Arguments.values, Arguments.withUses, List.filter_append, hnone]

/-- A use of one of two options in front of others counts when no other one of them follows. -/
theorem lastOf_withUses {yes no value : String} (h : key = yes ∨ key = no) :
    (a.withUses [(key, value)]).lastOf yes no = some ((a.lastOf yes no).getD (key == yes)) := by
  have huse : (key == yes || key == no) = true := by simpa using h
  unfold Arguments.lastOf Arguments.withUses
  rw [List.singleton_append, List.filter_cons, if_pos huse, List.getLast?_cons]
  cases (a.uses.filter fun u => u.1 == yes || u.1 == no).getLast? <;> rfl

/-- An argument that names options without their values, or with them, is read before the others. -/
theorem readArguments_cons {specs : List OptionSpec} {operandsEnd : Bool} {arg : String}
    (rest : List String) (hyphen : arg.toList.head? = some '-') (long : 1 < arg.toList.length)
    (named : arg ≠ "--") (h : readOption specs arg.toList = some { uses }) :
    readArguments specs operandsEnd (arg :: rest) =
      (readArguments specs operandsEnd rest).map (·.withUses uses) := by
  rw [readArguments.eq_def]
  simp [hyphen, long, named, h]

/-- The key of the switch that asks for a kind of scan. -/
def kindKey (failFast : Bool) : String := if failFast then "fail-fast" else "keep-going"

/-- The word of that switch. -/
def kindWord (failFast : Bool) : String := if failFast then "--fail-fast" else "--keep-going"

/-- The command line of a scan is that of its own arguments. -/
theorem parse_scan (args : List String) : CommandLine.parse ("scan" :: args) = do
    let a ← readArguments ((optionsOf? "scan").getD []) false args
    if a.has "help" then return .help
    return .run false (← request? "scan" a) := by
  have hmain : readArguments mainOptions true ("scan" :: args) = some { operands := "scan" :: args } := by
    rw [readArguments.eq_def]
    rfl
  rw [CommandLine.parse, hmain]
  rfl

/-- A scan of which a kind is asked for in front of its other arguments. -/
theorem request?_scan_withUses (failFast : Bool) :
    request? "scan" (a.withUses [(kindKey failFast, "")]) =
      if a.operands = [] then
        some (.scan (a.value "repo" ".") (a.values "ext")
          (some ((a.lastOf "fail-fast" "keep-going").getD failFast)) (a.has "json") (a.has "unique"))
      else none := by
  have hother (key : String) (h : key ≠ "fail-fast" ∧ key ≠ "keep-going") :
      ∀ u ∈ [(kindKey failFast, "")], u.1 ≠ key := by
    simp only [List.mem_singleton, forall_eq]
    cases failFast with
    | true => exact h.1.symm
    | false => exact h.2.symm
  have hkind : kindKey failFast = "fail-fast" ∨ kindKey failFast = "keep-going" := by
    cases failFast <;> simp [kindKey]
  have hasked : (kindKey failFast == "fail-fast") = failFast := by cases failFast <;> rfl
  have hoperands : (a.withUses [(kindKey failFast, "")]).operands = a.operands := rfl
  unfold request?
  rw [hoperands]
  cases a.operands with
  | nil =>
    simp only [Arguments.value]
    rw [values_withUses (hother "repo" (by decide)), values_withUses (hother "ext" (by decide)),
      has_withUses (hother "json" (by decide)), has_withUses (hother "unique" (by decide)),
      lastOf_withUses hkind, hasked]
    rfl
  | cons operand operands => rfl

/-- The command line of a scan of which a kind is asked for in front of its other arguments. -/
theorem parse_scan_kind (failFast : Bool) (args : List String) :
    CommandLine.parse ("scan" :: kindWord failFast :: args) =
      (readArguments ((optionsOf? "scan").getD []) false args).bind fun a =>
        if a.has "help" then some .help
        else if a.operands = [] then
          some (.run false (.scan (a.value "repo" ".") (a.values "ext")
            (some ((a.lastOf "fail-fast" "keep-going").getD failFast)) (a.has "json") (a.has "unique")))
        else none := by
  have hargs : readArguments ((optionsOf? "scan").getD []) false (kindWord failFast :: args) =
      (readArguments ((optionsOf? "scan").getD []) false args).map
        (·.withUses [(kindKey failFast, "")]) := by
    cases failFast with
    | true => exact readArguments_cons args (by decide) (by decide) (by decide) (by decide)
    | false => exact readArguments_cons args (by decide) (by decide) (by decide) (by decide)
  rw [parse_scan, hargs]
  cases readArguments ((optionsOf? "scan").getD []) false args with
  | none => rfl
  | some a =>
    have hhelp : (a.withUses [(kindKey failFast, "")]).has "help" = a.has "help" :=
      has_withUses (by cases failFast <;> simp [kindKey])
    simp only [Option.map_some, Option.bind_eq_bind, Option.bind_some, hhelp, request?_scan_withUses]
    split_ifs <;> rfl

/-- Scans on the command line end alike, whether they fail fast or keep going. -/
theorem endsAlike_run_scan {host : Host} (tree : host.tree.WellFormed) (args : List String) :
    EndsAlike (run host ("scan" :: kindWord true :: args)) (run host ("scan" :: kindWord false :: args)) := by
  unfold run
  rw [parse_scan_kind, parse_scan_kind]
  cases readArguments ((optionsOf? "scan").getD []) false args with
  | none => exact .refl _
  | some a =>
    simp only [Option.bind_some]
    split_ifs
    · exact .refl _
    · -- A use of one of the switches among the other arguments settles it for both.
      cases a.lastOf "fail-fast" "keep-going" with
      | some failFast => exact .refl _
      | none => exact endsAlike_scan tree _ _ _ _
    · exact .refl _

end Arguments

/-- Command lines that ask for the same scan, apart from its kind, end alike. -/
theorem endsAlike_run_of_parse {host : Host} (tree : host.tree.WellFormed) {fast keep : List String}
    {verbose verbose' : Bool} {repo : String} {extensions : List String} {asJson unique : Bool}
    (hfast : CommandLine.parse fast =
      some (.run verbose (.scan repo extensions (some true) asJson unique)))
    (hkeep : CommandLine.parse keep =
      some (.run verbose' (.scan repo extensions (some false) asJson unique))) :
    EndsAlike (run host fast) (run host keep) := by
  unfold run
  rw [hfast, hkeep]
  exact endsAlike_scan tree repo extensions asJson unique

/-- A scan that fails fast refines one that keeps going: it comes to the same good report, or else to
the first error. On the command line both end alike, wherever among the other arguments the kind of
scan is asked for. -/
theorem scan_failFast_refines {host : Host} (tree : host.tree.WellFormed) :
    (∀ p : Project, p.FailsFast host) ∧
    (∀ fast keep verbose verbose' repo extensions asJson unique,
      CommandLine.parse fast =
        some (.run verbose (.scan repo extensions (some true) asJson unique)) →
      CommandLine.parse keep =
        some (.run verbose' (.scan repo extensions (some false) asJson unique)) →
      EndsAlike (run host fast) (run host keep)) ∧
    ∀ args, EndsAlike (run host ("scan" :: "--fail-fast" :: args))
      (run host ("scan" :: "--keep-going" :: args)) :=
  ⟨fun _ => Project.failsFast tree,
    fun _ _ _ _ _ _ _ _ hfast hkeep => endsAlike_run_of_parse tree hfast hkeep,
    endsAlike_run_scan tree⟩

/-- Failing fast, the scan of `twoFiles` ends with the error that it reports when it keeps going. -/
theorem scan_failFast_refines_twoFiles :
    Project.twoFiles.tree.WellFormed ∧
      (∃ e, ((Project.atRoot.failing true).scan Project.twoFiles).result = .error (.analysis e) ∧
        e.message = "/c.js: Line 1: Unexpected end of input") ∧
      EndsAlike (run Project.twoFiles ["--verbose", "scan", "--json", "--fail-fast"])
        (run Project.twoFiles ["scan", "--keep-going", "--json"]) ∧
      EndsAlike (run Project.twoFiles ["scan", "--fail-fast", "--json"])
        (run Project.twoFiles ["scan", "--keep-going", "--json"]) := by
  obtain ⟨hscan, hparsed, hrun⟩ := scan_failFast_refines Project.wellFormed_twoFiles
  obtain ⟨source, e, -, hfast, hfailure⟩ :=
    (hscan Project.atRoot).failed _ Project.scan_twoFiles rfl
  obtain ⟨-, hmessage⟩ := Prod.mk.inj (List.mem_singleton.mp (Table.mem_of_find? hfailure))
  have hparse : CommandLine.parse ["--verbose", "scan", "--json", "--fail-fast"] =
      some (.run true (.scan "." [] (some true) true false)) := by decide +kernel
  have hparse' : CommandLine.parse ["scan", "--keep-going", "--json"] =
      some (.run false (.scan "." [] (some false) true false)) := by decide +kernel
  exact ⟨Project.wellFormed_twoFiles, ⟨e, hfast, hmessage⟩,
    hparsed _ _ _ _ _ _ _ _ hparse hparse', hrun ["--json"]⟩

end Command

end Specifiers
