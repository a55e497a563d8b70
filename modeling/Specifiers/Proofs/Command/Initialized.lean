import Specifiers.Proofs.Project.Initialized

/-!
# Scans before and after `init`

A project that has no settings of its own is scanned as before when `init` has made them: the scan puts
out the same, ends with the same number and breaks off with the same error (`scan_after_init`). It does so
also when the host has refused an operation of `init`, whatever has been made by then.
-/

namespace Specifiers

namespace Command

/-! ## The same outcome with other files -/

section Outcomes

variable (host : Host) (files : FileSystem)

/-- A host in which other files are. -/
abbrev withFiles : Host := { host with toFileSystem := files }

theorem printing_withFiles (messages : List String) (exit : Nat) :
    Outcome.printing (withFiles host files) messages exit =
      { Outcome.printing host messages exit with files := withFiles host files } := by
  unfold Outcome.printing
  dsimp only
  generalize Console.lines host.display messages = printed
  rcases printed with ⟨_, _ | _⟩ <;> rfl

theorem scanFailure_withFiles (e : ScanError) : scanFailure (withFiles host files) e =
    { scanFailure host e with files := withFiles host files } := by
  unfold scanFailure
  cases e with
  | notDirectory root => exact printing_withFiles host files _ 1
  | analysis cause =>
    cases cause with
    | file | encodingName | parse => exact printing_withFiles host files _ 1
    | nulInName | decoding | fault => rfl

/-- What a scan comes to is told alike, whatever the files are. -/
theorem reported_withFiles (asJson unique : Bool) (result : Except ScanError Report) :
    reported (withFiles host files) asJson unique result =
      { reported host asJson unique result with files := withFiles host files } := by
  cases result with
  | error e => exact scanFailure_withFiles host files e
  | ok r =>
    cases asJson with
    | true => rfl
    | false => exact printing_withFiles host files _ _

/-- A scan that comes to the same is told alike. -/
theorem scanProject_withFiles {p : Project} (h : p.scan (withFiles host files) = p.scan host)
    (asJson unique : Bool) : scanProject (withFiles host files) p asJson unique =
      { scanProject host p asJson unique with files := withFiles host files } := by
  rw [scanProject_eq, scanProject_eq, h, reported_withFiles host files]
  cases asJson <;> rfl

end Outcomes

/-! ## A project without settings -/

section Initialized

variable {host : Host} {root : Path}

/-- A draft of the settings of a project in the files of a host. -/
def drafted (host : Host) (root : Path) (draft : FileTree) : Host :=
  withFiles host (initialized host.toFileSystem root draft)

/-- A draft is put into the tree at the place for settings. -/
theorem withTree_put (h : Uninitialized host.toFileSystem root) (draft : FileTree) :
    host.withTree (FileTree.put draft (settingsPlace root).segments host.tree) =
      drafted host root draft := by
  rw [drafted, initialized, FileSystem.put, FileSystem.segmentsOf_of_absolute h.absolute_place]
  rfl

/-- In a directory, the settings have come to a draft, or nothing has been made. -/
theorem exists_draft_of_stage {after : FileTree} (h : Uninitialized host.toFileSystem root)
    (stage : Stage (settingsPlace root).segments host.tree after) :
    host.withTree after = host ∨ ∃ draft, Draft draft ∧ host.withTree after = drafted host root draft := by
  rcases stage with (rfl | ⟨way, hway, missing, rfl⟩) | ⟨-, hdraft⟩
  · exact .inl rfl
  · -- The root is there, so only the place itself can be missing.
    obtain ⟨es, hes⟩ := h.exists_entries
    have hplace : way = (settingsPlace root).segments := by
      refine (List.prefix_concat_iff.mp hway).resolve_right fun habove => ?_
      obtain ⟨rest, hrest⟩ := habove
      have hdown : ".." ∉ way ++ rest := hrest ▸ h.down
      have hfollow : FileTree.follow [] host.tree (way ++ rest) = .error .missing :=
        FileTree.follow_append_of_error (fun hmem => hdown (List.mem_append_right _ hmem)) missing
      rw [hrest, hes] at hfollow
      cases hfollow
    exact .inr ⟨_, .empty, hplace ▸ withTree_put h (.directory [])⟩
  · exact .inr ⟨_, hdraft, withTree_put h _⟩

/-- In a directory nothing is in the way of the settings, so they have come to a draft or the host has refused
an operation. -/
theorem files_of_makes {o : Outcome} (h : Uninitialized host.toFileSystem root)
    (hmakes : Makes host (settingsPlace root) o) :
    (o.files = host ∨ ∃ draft, Draft draft ∧ o.files = drafted host root draft) ∧
      ((∀ t op, host.refuses t op = none) → o.files = drafted host root settingsDirectory) := by
  cases hmakes with
  | made missing =>
    have hfiles : host.withTree (FileTree.put settingsDirectory (settingsPlace root).segments host.tree) =
        drafted host root settingsDirectory := withTree_put h settingsDirectory
    rw [files_printing, hfiles]
    exact ⟨.inr ⟨_, .written, rfl⟩, fun _ => rfl⟩
  | stopped messages stage refused =>
    rw [files_printing]
    refine ⟨exists_draft_of_stage h stage, fun unrefused => ?_⟩
    obtain ⟨op, message, -, hrefuses⟩ := refused
    exact absurd ((unrefused _ op).symm.trans hrefuses) nofun
  | blocked messages file =>
    have hmissing : FileTree.follow [] host.tree (settingsPlace root).segments = .error .missing :=
      h.follow_place
    exact absurd (hmissing.symm.trans file) (by simp)

/-- For a project without settings `init` comes to a draft of them or to nothing, and to the settings
themselves when the host refuses nothing. -/
theorem files_init {repo : String} (hrepo : (Path.ofString repo).resolve host.here = root)
    (h : Uninitialized host.toFileSystem root) (here : host.here.absolute = true) (overwrite : Bool) :
    let after := (init host repo overwrite).files
    (after = host ∨ ∃ draft, Draft draft ∧ after = drafted host root draft) ∧
      ((∀ t op, host.refuses t op = none) → after = drafted host root settingsDirectory) := by
  have hplace : placeOf host.here repo = settingsPlace root := by rw [placeOf, hrepo]
  have hinits := inits_init here repo overwrite
  rw [hplace] at hinits
  generalize init host repo overwrite = o at hinits ⊢
  -- without an entry of that name, only failing before a change and making the directory remain
  have hnoEntry (entry : host.hasEntry (settingsPlace root) = true) : False :=
    absurd (h.noEntry.symm.trans entry) (by decide)
  cases hinits with
  | failed files _ why =>
    refine ⟨.inl files, fun unrefused => ?_⟩
    rcases why with entry | ⟨op, message, -, hrefuses⟩
    · exact (hnoEntry entry).elim
    · rw [unrefused] at hrefuses
      cases hrefuses
  | makes noEntry hmakes => exact files_of_makes h hmakes
  | stays entry messages => exact (hnoEntry entry).elim
  | makesAnew entry => exact (hnoEntry entry).elim
  | removes entry => exact (hnoEntry entry).elim

/-- A scan of a project is the same as before when the project has been given a draft of its settings. -/
theorem scan_of_drafted {repo : String} {draft : FileTree}
    (hrepo : (Path.ofString repo).resolve host.here = root) (h : Uninitialized host.toFileSystem root)
    (hdraft : Draft draft) (noUser : NoUserFile host.toFileSystem (drafted host root draft).toFileSystem)
    (extensions : List String) (failFast : Option Bool) (asJson unique : Bool) :
    scan (drafted host root draft) repo extensions failFast asJson unique =
      { scan host repo extensions failFast asJson unique with files := drafted host root draft } := by
  have hhere : (drafted host root draft).here = host.here := rfl
  have hfiles : (drafted host root draft).toFileSystem = initialized host.toFileSystem root draft := rfl
  -- the two scans agree step by step: root, settings, rules, and then the files they read
  unfold scan
  dsimp only
  rw [hhere, hrepo, hfiles, if_pos h.hasDirectory_initialized, if_pos h.directory,
    h.load_initialized hdraft noUser (some extensions) failFast]
  cases hsettings : Settings.load host.toFileSystem (Settings.projectFile root)
      (Settings.overrides (some extensions) failFast) with
  | error e => rfl
  | ok settings =>
    dsimp only
    rw [drafted, h.load_project_initialized]
    cases hload : Project.load host root settings with
    | error e => rfl
    | ok loaded =>
      obtain ⟨project, notices⟩ := loaded
      obtain ⟨hroot, -, hfilter, hignored⟩ :=
        h.ignores_settings (h.keep_of_load noUser.noneBefore hsettings) hload
      have hscan := h.scan_initialized hdraft hroot hfilter hignored
      dsimp only
      rw [scanProject_withFiles host _ hscan]
      rfl

/-- A project whose root is a directory without settings, given by its path from an absolute one. -/
theorem uninitialized_of_resolve {repo : String} (tree : host.tree.WellFormed)
    (here : host.here.absolute = true) (directory : host.hasDirectory root = true)
    (noEntry : host.hasEntry (settingsPlace root) = false)
    (hrepo : (Path.ofString repo).resolve host.here = root) : Uninitialized host.toFileSystem root where
  tree := tree
  absolute := by
    rw [← hrepo]
    exact Path.absolute_resolve _ here
  down := by
    rw [← hrepo]
    exact Path.dots_notMem_resolve _ _
  directory := directory
  noEntry := noEntry

/-- When the path to the settings of the user leads downwards only, `init` brings no file of the user in. -/
theorem noUserFile_after_init (tree : host.tree.WellFormed) (here : host.here.absolute = true)
    (directory : host.hasDirectory root = true) (noEntry : host.hasEntry (settingsPlace root) = false)
    (home : ".." ∉ host.segmentsOf (Settings.userFile host.home))
    (noUser : ∀ bytes, host.at? (Settings.userFile host.home) ≠ some (.file bytes))
    {initArgs : List String} {verbose overwrite : Bool} {repo : String}
    (hinit : CommandLine.parse initArgs = some (.run verbose (.init repo overwrite)))
    (hrepo : (Path.ofString repo).resolve host.here = root) :
    NoUserFile host.toFileSystem (run host initArgs).files.toFileSystem := by
  have hproject := uninitialized_of_resolve tree here directory noEntry hrepo
  have hrun : run host initArgs = init host repo overwrite := by
    unfold run
    rw [hinit]
    rfl
  rw [hrun]
  obtain ⟨hsame | ⟨draft, hdraft, hfiles⟩, -⟩ := files_init hrepo hproject here overwrite
  · rw [hsame]
    exact ⟨noUser, noUser, rfl⟩
  · rw [hfiles]
    exact hproject.noUserFile_of_down hdraft home noUser

/-- Making its settings does not change how a project is scanned, when there is no file of settings of the
user before and after: whatever is asked for, the scan puts out the same as before, ends with the same number,
and with the same error if it breaks off. This is so also when the host has refused an operation; when it
refuses none, the settings have been made. -/
theorem scan_after_init (tree : host.tree.WellFormed) (here : host.here.absolute = true)
    (directory : host.hasDirectory root = true) (noEntry : host.hasEntry (settingsPlace root) = false)
    {initArgs scanArgs : List String} {verbose verbose' overwrite : Bool} {repo repo' : String}
    {extensions : List String} {failFast : Option Bool} {asJson unique : Bool}
    (hinit : CommandLine.parse initArgs = some (.run verbose (.init repo overwrite)))
    (hscan : CommandLine.parse scanArgs =
      some (.run verbose' (.scan repo' extensions failFast asJson unique)))
    (hrepo : (Path.ofString repo).resolve host.here = root)
    (hrepo' : (Path.ofString repo').resolve host.here = root)
    (noUser : NoUserFile host.toFileSystem (run host initArgs).files.toFileSystem) :
    let after := (run host initArgs).files
    ((∀ t op, host.refuses t op = none) → after.at? (settingsPlace root) = some settingsDirectory) ∧
      run after scanArgs = { run host scanArgs with files := after } := by
  have hproject := uninitialized_of_resolve tree here directory noEntry hrepo
  have hrun : run host initArgs = init host repo overwrite := by
    unfold run
    rw [hinit]
    rfl
  have hscans (host : Host) : run host scanArgs = scan host repo' extensions failFast asJson unique := by
    unfold run
    rw [hscan]
    rfl
  rw [hrun] at noUser ⊢
  obtain ⟨hafter, hmade⟩ := files_init hrepo hproject here overwrite
  intro after
  refine ⟨fun unrefused => ?_, ?_⟩
  · have hfiles : after = drafted host root settingsDirectory := hmade unrefused
    rw [hfiles]
    exact FileSystem.at?_put hproject.absolute_place hproject.down_place _
  · rw [hscans, hscans]
    rcases hafter with hsame | ⟨draft, hdraft, hfiles⟩
    · have hfiles : after = host := hsame
      rw [hfiles]
      -- The scan leaves the host as it was, so the outcome with that host in it is the outcome.
      have hkept := files_scan host repo' extensions failFast asJson unique
      generalize scan host repo' extensions failFast asJson unique = outcome at hkept ⊢
      rw [← hkept]
    · have hfiles : after = drafted host root draft := hfiles
      rw [hfiles]
      exact scan_of_drafted hrepo' hproject hdraft (hfiles ▸ noUser) extensions failFast asJson unique

/-- The file of settings of `twoFiles` is not among its sources, even if such files are asked for. -/
theorem scan_after_init_twoFiles :
    let after := (run Project.twoFiles ["init"]).files
    Project.twoFiles.hasEntry ⟨.root, [".jsreq"]⟩ = false ∧
      after.at? ⟨.root, [".jsreq"]⟩ = some settingsDirectory ∧
      run after ["scan", "--repo", "/", "--ext", ".toml"] =
        { run Project.twoFiles ["scan", "--repo", "/", "--ext", ".toml"] with files := after } := by
  have hnone : Project.twoFiles.at? (Settings.userFile Project.twoFiles.home) = none := rfl
  have hinit : CommandLine.parse ["init"] = some (.run false (.init "." false)) := by decide +kernel
  have hscan : CommandLine.parse ["scan", "--repo", "/", "--ext", ".toml"] =
      some (.run false (.scan "/" [".toml"] none false false)) := by decide +kernel
  have hnoUser := noUserFile_after_init Project.wellFormed_twoFiles rfl rfl rfl (by decide)
    (fun bytes h => absurd (hnone.symm.trans h) (by simp)) hinit rfl
  obtain ⟨hmade, hsame⟩ :=
    scan_after_init Project.wellFormed_twoFiles rfl rfl rfl hinit hscan rfl rfl hnoUser
  exact ⟨rfl, hmade fun _ _ => rfl, hsame⟩

end Initialized

end Command

end Specifiers
