import Specifiers.Proofs.Command.Scan
import Specifiers.Proofs.Command.Settings
import Specifiers.Proofs.Console.Markup

/-!
# What commands change

Only `init` changes files, and of those nothing but the directory for settings that it makes, with the
directories on the way there (`Initializes`). When it fails it leaves everything as it was, but for two
cases: it has made the directory and cannot tell so, because the path of the directory is taken for markup or
cannot be put out; or the host refuses the next of its operations, and those before it stay done (`Stops`). A
session runs commands one after the other; what holds of each of them holds altogether by induction on the
session.
-/

namespace Specifiers

namespace Command

open Change (Refused)
open FileTree (Kept Keeps)

/-! ## Outcomes that leave the files as they are -/

section Files

variable (host : Host)

@[simp]
theorem files_printing (messages : List String) (exit : Nat) :
    (Outcome.printing host messages exit).files = host := by
  unfold Outcome.printing
  split <;> rfl

@[simp]
theorem files_json (t : Tree) (exit : Nat) : (Outcome.json host t exit).files = host := rfl

@[simp]
theorem files_broken (e : CommandError) : (Outcome.broken host e).files = host := rfl

@[simp]
theorem files_after (output : String) (o : Outcome) : (o.after output).files = o.files := rfl

@[simp]
theorem files_noting (notices : List Notice) (o : Outcome) : (o.noting notices).files = o.files := rfl

/-- That a file has no listing is reported, and nothing is changed. -/
@[simp]
theorem files_analysisFailure (path : Path) (e : AnalysisError) :
    (analysisFailure host path e).files = host := by
  unfold analysisFailure
  split <;> simp

/-- That a scan breaks off is reported, and nothing is changed. -/
@[simp]
theorem files_scanFailure (e : ScanError) : (scanFailure host e).files = host := by
  unfold scanFailure
  dsimp only
  split
  · simp
  · split <;> simp

/-- Listing a file changes nothing. -/
theorem files_extract (file : String) (asJson unique : Bool) (encoding : String) :
    (extract host file asJson unique encoding).files = host := by
  unfold extract
  simp only [files_noting]
  split
  · split <;> simp
  · simp

@[simp]
theorem files_reported (asJson unique : Bool) (result : Except ScanError Report) :
    (reported host asJson unique result).files = host := by
  cases result with
  | ok r => cases asJson <;> simp [reported]
  | error e => exact files_scanFailure host e

/-- Scanning a project that can be loaded changes nothing. -/
@[simp]
theorem files_scanProject (p : Project) (asJson unique : Bool) :
    (scanProject host p asJson unique).files = host := by
  rw [scanProject_eq, files_noting]
  split <;> simp

/-- Scanning changes nothing, whether there is a project that can be scanned or not. -/
theorem files_scan (repo : String) (extensions : List String) (failFast : Option Bool)
    (asJson unique : Bool) : (scan host repo extensions failFast asJson unique).files = host := by
  unfold scan
  dsimp only
  split
  · split
    · simp
    · split <;> simp
  · simp

/-- Reading a query changes nothing. -/
theorem files_deps (query : String) (asJson : Bool) : (deps host query asJson).files = host := by
  unfold deps
  split
  · simp
  · split <;> simp

/-- Does a command line ask for the settings of a project, which a text names? -/
def AsksInit (args : List String) (repo : String) (overwrite : Bool) : Prop :=
  ∃ verbose, CommandLine.parse args = some (.run verbose (.init repo overwrite))

/-- Only command lines that ask for `init` change files. -/
theorem files_run_of_not_asksInit {args : List String}
    (h : ∀ repo overwrite, ¬AsksInit args repo overwrite) : (run host args).files = host := by
  unfold run
  cases hparse : CommandLine.parse args with
  | none => rfl
  | some line =>
    cases line with
    | help => rfl
    | run verbose request =>
      cases request with
      | init repo overwrite => exact absurd ⟨verbose, hparse⟩ (h repo overwrite)
      | extract file asJson unique encoding => exact files_extract host file asJson unique encoding
      | scan repo extensions failFast asJson unique =>
        exact files_scan host repo extensions failFast asJson unique
      | deps query asJson => exact files_deps host query asJson
      | version => exact files_printing host _ 0

end Files

/-! ## What is told -/

/-- A place whose text has no opening bracket can be told of, if the display can put it out. -/
theorem lines_settingsMessages {d : Console.Display} {root place : Path} {e : Console.MarkupError}
    (hplace : settingsPlace root = place) (h : (Console.lines d (settingsMessages place)).2 = some e) :
    '[' ∈ place.text.toList ∨ ∃ shown complaint, d.refusal? shown = some complaint := by
  by_contra hnot
  obtain ⟨hbracket, hrefusal⟩ := not_or.mp hnot
  -- both lines end in a known name, so that no backslash of the place can stand at their end
  obtain ⟨front, hfront⟩ := Path.suffix_text_below root Settings.directoryName
  rw [← settingsPlace, hplace] at hfront
  have hfile : (place.below [Settings.fileName]).text.toList =
      place.text.toList ++ '/' :: Settings.fileName.toList :=
    Path.toList_text_below (by rw [← hplace]; simp [settingsPlace, Path.below]) _
  have hprinted {markup : String} (h : ∃ cs, Console.render d markup = .ok cs) :
      ∃ s, Console.line d markup = .ok s := by
    obtain ⟨cs, hcs⟩ := h
    cases hline : Console.line d markup with
    | ok s => exact ⟨s, rfl⟩
    | error e => exact absurd (Console.exists_refusal_of_line hcs hline) hrefusal
  obtain ⟨first, hfirst⟩ : ∃ s, Console.line d
      ("[green]" ++ ("Initialized jsreq in " ++ place.text) ++ "[/green]") = .ok s := by
    have hlast : ("Initialized jsreq in " ++ place.text).toList =
        ("Initialized jsreq in ".toList ++ front ++ ".jsre".toList) ++ ['q'] := by
      rw [String.toList_append, ← hfront]
      simp [Settings.directoryName]
    refine hprinted (Console.exists_render_green ?_ hlast (by decide))
    rw [String.toList_append, List.mem_append, not_or]
    exact ⟨by decide, hbracket⟩
  obtain ⟨second, hsecond⟩ : ∃ s, Console.line d
      ("Configuration created at: " ++ (place.below [Settings.fileName]).text) = .ok s := by
    have hlast : ("Configuration created at: " ++ (place.below [Settings.fileName]).text).toList =
        ("Configuration created at: ".toList ++ place.text.toList ++ "/jsreq.tom".toList) ++ ['l'] := by
      rw [String.toList_append, hfile]
      simp [Settings.fileName]
    refine hprinted (Console.exists_render_of_untagged ?_ hlast (by decide))
    rw [String.toList_append, List.mem_append, hfile, List.mem_append, not_or, not_or]
    exact ⟨by decide, hbracket, by decide⟩
  -- the message is nested to the left, the lemma about green lines wants the tags outermost
  have hgreen : "[green]Initialized jsreq in " ++ place.text ++ "[/green]" =
      "[green]" ++ ("Initialized jsreq in " ++ place.text) ++ "[/green]" := by
    rw [← String.append_assoc]
    rfl
  simp [settingsMessages, Console.lines, hgreen, hfirst, hsecond] at h

/-! ## Runs of `init` -/

/-- What a run of `init` leaves behind when the host refuses one of its operations: the settings at a stage,
made from the files as they were or, where settings are to be overwritten, after removing them, all of them
or a part. -/
structure Stops (before : Host) (place : Path) (overwrite : Bool) (after : FileTree) : Prop where
  refused : Refused before.refuses (Takes place (if overwrite then before.at? place else none)) after
  stage : ∃ start, (start = before.tree ∨ overwrite = true ∧ Keeps place.segments before.tree start) ∧
    Stage place.segments start after

/-- What a run of `init` for a place makes of the files. -/
structure Initializes (before : Host) (place : Path) (overwrite : Bool) (o : Outcome) : Prop where
  /-- Nothing but the files is changed. -/
  stand : o.files = before.withTree o.files.tree
  /-- Nothing changes outside the place, but for the directories on the way to it. -/
  outside : ∀ segments, ".." ∉ segments → ¬place.segments <+: segments →
    Kept before.tree o.files.tree (segments <+: place.segments) segments
  /-- What is at the place already stays as it is, unless it is to be overwritten. -/
  kept : before.hasEntry place = true → overwrite = false → o.files = before
  /-- After a success there is at the place the file of settings that a project starts with, and nothing
  else. -/
  made : o.exit = 0 → before.hasEntry place = false ∨ overwrite = true →
    o.files.at? place = some settingsDirectory
  /-- After a failure everything is as before, unless the settings have been made and the messages that
  tell so break off, at a tag in the path or for the display, or the host refuses the next operation on the
  files as they have been left. -/
  failed : o.exit ≠ 0 ∨ o.error.isSome = true → o.files = before ∨
    (('[' ∈ place.text.toList ∨ ∃ shown complaint, before.display.refusal? shown = some complaint) ∧
      (∃ e, (Console.lines before.display (settingsMessages place)).2 = some e ∧
        o.error = some (.markup e)) ∧
      o.files.at? place = some settingsDirectory) ∨
    Stops before place overwrite o.files.tree

namespace Initializes

variable {before : Host} {place : Path} {overwrite : Bool} {o : Outcome}

/-- Nothing has to be made where settings stay as they are. -/
theorem of_unchanged (hfiles : o.files = before)
    (hexit : o.exit = 0 → before.hasEntry place = true ∧ overwrite = false) :
    Initializes before place overwrite o where
  stand := by rw [hfiles]; rfl
  outside segments _ _ := hfiles ▸ Kept.refl _ _ _
  kept _ _ := hfiles
  made hzero hnew := by
    obtain ⟨hentry, hoverwrite⟩ := hexit hzero
    exact absurd hnew (by simp [hentry, hoverwrite])
  failed _ := .inl hfiles

/-- A run that the host has stopped keeps everything outside the place, but for directories on the way. -/
theorem of_stops (hfiles : o.files = before.withTree o.files.tree)
    (keeps : Keeps place.segments before.tree o.files.tree)
    (stops : Stops before place overwrite o.files.tree) (hexit : o.exit = 1)
    (hnew : before.hasEntry place = false ∨ overwrite = true) : Initializes before place overwrite o where
  stand := hfiles
  outside := keeps
  kept hentry hoverwrite := absurd hnew (by simp [hentry, hoverwrite])
  made hzero _ := absurd (hexit.symm.trans hzero) (by decide)
  failed _ := .inr (.inr stops)

/-- What was put out before changes nothing in the account. -/
theorem after (h : Initializes before place overwrite o) (output : String) :
    Initializes before place overwrite (o.after output) :=
  ⟨h.stand, h.outside, h.kept, h.made, h.failed⟩

end Initializes

section Run

variable {host : Host} {root place : Path} {repo : String} {overwrite : Bool}

/-- Settings are made at a place where nothing is, or nothing is left. -/
theorem initializes_of_makes {tree : FileTree} {o : Outcome} (hplace : Place place)
    (hroot : settingsPlace root = place) (keeps : Keeps place.segments host.tree tree)
    (hnew : host.hasEntry place = false ∧ tree = host.tree ∨
      overwrite = true ∧ FileTree.follow [] tree place.segments = .error .missing)
    (h : Makes (host.withTree tree) place o) : Initializes host place overwrite o := by
  have hwhen : host.hasEntry place = false ∨ overwrite = true := hnew.imp And.left And.left
  cases h with
  -- The settings have been made, and only the messages can still break off.
  | made missing =>
    let made := host.withTree (FileTree.put settingsDirectory place.segments tree)
    have hmade : made.at? place = some settingsDirectory := by
      have hthere : FileTree.follow [] made.tree place.segments = .ok settingsDirectory :=
        FileTree.follow_put hplace.down
      rw [hplace.at?_eq, FileTree.at?, hthere]
      rfl
    show Initializes host place overwrite (.printing made (settingsMessages place))
    constructor
    case stand => rw [files_printing]; rfl
    case outside =>
      rw [files_printing]
      refine keeps.trans (.put hplace.down ?_)
      rw [show FileTree.follow [] tree place.segments = .error .missing from missing]
      simp
    case kept => exact fun hentry hoverwrite => absurd hwhen (by simp [hentry, hoverwrite])
    case made =>
      intro _ _
      rw [files_printing]
      exact hmade
    case failed =>
      intro hfail
      cases hlines : (Console.lines made.display (settingsMessages place)) with
      | mk output error =>
        cases error with
        | none => simp [Outcome.printing, hlines] at hfail
        | some e =>
          have he : (Console.lines host.display (settingsMessages place)).2 = some e :=
            congrArg Prod.snd hlines
          refine .inr (.inl ⟨lines_settingsMessages hroot he, ⟨e, he, ?_⟩, ?_⟩)
          · simp [Outcome.printing, hlines]
          · rw [files_printing]
            exact hmade
  -- The host has refused a step, so the settings are left at a stage.
  | stopped messages stage refused =>
    refine .of_stops ?_ ?_ ?_ (exit_printing_one _ messages) hwhen
    · rw [files_printing]
      rfl
    · rw [files_printing]
      exact keeps.trans (stage.keeps hplace.down)
    · rw [files_printing]
      refine ⟨refused.mono fun _ => .of_none, tree, ?_, stage⟩
      exact hnew.imp And.right fun h => ⟨h.1, keeps⟩
  -- A file is in the way: where settings were removed before, this cannot be.
  | blocked messages file =>
    rcases hnew with ⟨-, rfl⟩ | ⟨-, missing⟩
    · refine .of_unchanged (files_printing host messages 1) fun h => ?_
      exact absurd ((exit_printing_one host messages).symm.trans h) (by decide)
    · exact absurd (missing.symm.trans file) (by simp)

/-- A run of `init` that is requested does what it should at its place. -/
theorem initializes_init (here : host.here.absolute = true) :
    Initializes host (placeOf host.here repo) overwrite (init host repo overwrite) := by
  have hplace := place_placeOf here repo
  have hinits := inits_init here repo overwrite
  generalize init host repo overwrite = o at hinits ⊢
  cases hinits with
  | failed files exit _ =>
    refine .of_unchanged files fun h => ?_
    exact absurd (exit.symm.trans h) (by decide)
  | makes noEntry h =>
    exact initializes_of_makes hplace rfl (.refl _ _) (.inl ⟨noEntry, rfl⟩) h
  | stays entry messages => exact .of_unchanged (files_printing host messages 0) fun _ => ⟨entry, rfl⟩
  | makesAnew _ keeps missing h output =>
    exact (initializes_of_makes hplace rfl keeps (.inr ⟨rfl, missing⟩) h).after output
  | removes _ keeps refused e output =>
    exact .of_stops rfl keeps ⟨refused, _, .inr ⟨rfl, keeps⟩, .onTheWay (.inl rfl)⟩ rfl (.inr rfl)

end Run

/-! ## Sessions -/

/-- The host after commands that are run one after the other. -/
def session (host : Host) (commands : List (List String)) : Host :=
  commands.foldl (fun host args => (run host args).files) host

/-- What a command makes of the files: nothing, or the settings that it asks for. -/
structure Accounts (before : Host) (args : List String) (o : Outcome) : Prop where
  reads : (∀ repo overwrite, ¬AsksInit args repo overwrite) → o.files = before
  makes : ∀ repo overwrite, AsksInit args repo overwrite →
    Initializes before (placeOf before.here repo) overwrite o

section Session

variable {host : Host}

/-- Does a command of a session ask for settings at a place? -/
def AskedAt (here : Path) (commands : List (List String)) (place : Path) : Prop :=
  ∃ args ∈ commands, ∃ repo overwrite, AsksInit args repo overwrite ∧ placeOf here repo = place

/-- A command that does not ask for settings leaves the files alone, and `init` accounts for itself. -/
theorem accounts_run (here : host.here.absolute = true) (args : List String) :
    Accounts host args (run host args) where
  reads h := files_run_of_not_asksInit host h
  makes repo overwrite := by
    rintro ⟨verbose, hparse⟩
    have hrun : run host args = init host repo overwrite := by
      unfold run
      rw [hparse]
      rfl
    rw [hrun]
    exact initializes_init here

/-- A command changes nothing but the files, and keeps what is not at a place that it asks for. -/
theorem Accounts.kept {args : List String} {o : Outcome} (h : Accounts host args o) :
    o.files = host.withTree o.files.tree ∧ ∀ segments, ".." ∉ segments →
      (∀ place, AskedAt host.here [args] place → ¬place.segments <+: segments) →
      Kept host.tree o.files.tree
        (∃ place, AskedAt host.here [args] place ∧ segments <+: place.segments) segments := by
  by_cases hasks : ∃ repo overwrite, AsksInit args repo overwrite
  · obtain ⟨repo, overwrite, hasks⟩ := hasks
    have hmakes := h.makes repo overwrite hasks
    have hasked : AskedAt host.here [args] (placeOf host.here repo) :=
      ⟨args, List.mem_singleton_self args, repo, overwrite, hasks, rfl⟩
    refine ⟨hmakes.stand, fun segments hdown elsewhere => ?_⟩
    exact (hmakes.outside segments hdown (elsewhere _ hasked)).imp fun h => ⟨_, hasked, h⟩
  · have hfiles := h.reads fun repo overwrite h => hasks ⟨repo, overwrite, h⟩
    rw [hfiles]
    exact ⟨rfl, fun segments _ _ => .refl _ _ _⟩

/-- A place is asked for by the first command or by one after it. -/
theorem askedAt_cons {here place : Path} {args : List String} {commands : List (List String)} :
    AskedAt here (args :: commands) place ↔ AskedAt here [args] place ∨ AskedAt here commands place := by
  simp [AskedAt]

/-- Of a session the same holds as of each of its commands. -/
theorem kept_session (here : host.here.absolute = true) (commands : List (List String)) :
    session host commands = host.withTree (session host commands).tree ∧ ∀ segments, ".." ∉ segments →
      (∀ place, AskedAt host.here commands place → ¬place.segments <+: segments) →
      Kept host.tree (session host commands).tree
        (∃ place, AskedAt host.here commands place ∧ segments <+: place.segments) segments := by
  -- The first command keeps what it should, and the rest of the session starts from its files.
  induction commands generalizing host with
  | nil => exact ⟨rfl, fun segments _ _ => .refl _ _ _⟩
  | cons args commands ih =>
    obtain ⟨hstand, hfirst⟩ := (accounts_run here args).kept
    have hhere : (run host args).files.here = host.here := by rw [hstand]; rfl
    obtain ⟨hstay, hrest⟩ := @ih (run host args).files (hhere ▸ here)
    rw [hhere] at hrest
    refine ⟨by rw [session, List.foldl_cons, ← session, hstay, hstand]; rfl,
      fun segments hdown elsewhere => ?_⟩
    have hkept := hfirst segments hdown fun place h => elsewhere place (askedAt_cons.mpr (.inl h))
    have hkept' := hrest segments hdown fun place h => elsewhere place (askedAt_cons.mpr (.inr h))
    refine (hkept.imp ?_).trans (hkept'.imp ?_)
    · exact fun ⟨place, hasked, hway⟩ => ⟨place, askedAt_cons.mpr (.inl hasked), hway⟩
    · exact fun ⟨place, hasked, hway⟩ => ⟨place, askedAt_cons.mpr (.inr hasked), hway⟩

end Session

/-- A root directory with nothing in it. -/
def emptyRoot : Host := .ofTree (.directory [])

/-- When a name on the way is too long, `init` has made the directory above it before it fails. -/
example :
    let host : Host := { emptyRoot with refuses := refusesLongNames 5 }
    let o := run host ["init", "--repo", "new/toolong"]
    o.exit = 1 ∧ host.hasEntry ⟨.root, ["new"]⟩ = false ∧
      o.files.filesBelow ⟨.root, []⟩ = [] ∧ o.files.hasDirectory ⟨.root, ["new"]⟩ = true := by
  decide +kernel

end Command

end Specifiers
