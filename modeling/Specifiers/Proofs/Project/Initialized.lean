import Specifiers.Proofs.Command.Init
import Specifiers.Proofs.Ignore.Filter
import Specifiers.Proofs.Project
import Specifiers.Proofs.Settings.Template

/-!
# A project that is given its file of settings

The file spells the defaults, stands in a directory that every project excludes, and no other file is
touched. So a project has the same settings, the same patterns, the same sources with the same analyses,
and the same scan as before. This is so already when the file is still empty, or the directory without a file:
whichever draft of the settings has come to stand at the place.
-/

namespace Specifiers

open Command (Draft settingsDirectory settingsPlace)
open FileSystem (SameAt)

/-- The file system in which the project at a root has a draft of its settings. -/
def initialized (fs : FileSystem) (root : Path) (draft : FileTree) : FileSystem :=
  fs.put (settingsPlace root) draft

/-- Is there no file of settings of the user, neither before nor after a change of the files? If there is
something else in its place, it is there before and after. -/
structure NoUserFile (before after : FileSystem) : Prop where
  noneBefore : ∀ bytes, before.at? (Settings.userFile before.home) ≠ some (.file bytes)
  noneAfter : ∀ bytes, after.at? (Settings.userFile after.home) ≠ some (.file bytes)
  same : after.hasEntry (Settings.userFile after.home) = before.hasEntry (Settings.userFile before.home)

/-- Where there is nothing before and after, there is no file. -/
theorem NoUserFile.of_missing {before after : FileSystem}
    (hbefore : before.hasEntry (Settings.userFile before.home) = false)
    (hafter : after.hasEntry (Settings.userFile after.home) = false) : NoUserFile before after := by
  unfold FileSystem.hasEntry at hbefore hafter
  rw [Option.isSome_eq_false_iff, Option.isNone_iff_eq_none] at hbefore hafter
  exact ⟨by simp [hbefore], by simp [hafter], by simp [FileSystem.hasEntry, hbefore, hafter]⟩

/-! ## Drafts -/

/-- A draft has no file but the file of settings. -/
theorem files_of_draft {draft : FileTree} (h : Draft draft) :
    ∀ segments ∈ FileTree.files [] draft, segments = [Settings.fileName] := by
  cases h <;> simp [FileTree.files, FileTree.filesOf, settingsDirectory]

/-- Below the file of settings of a draft there is nothing. -/
theorem exists_follow_draft_error {draft : FileTree} (h : Draft draft) {s : String} {rest : List String}
    (down : ".." ∉ s :: rest) (other : s :: rest ≠ [Settings.fileName]) :
    ∃ e, FileTree.follow [] draft (s :: rest) = .error e := by
  have hfile (bytes : List UInt8) :
      ∃ e, FileTree.follow [] (.directory [(Settings.fileName, .file bytes)]) (s :: rest) = .error e := by
    by_cases hs : s = Settings.fileName
    · subst hs
      rw [FileTree.follow_cons_of_some down (by rw [Table.find?_cons, if_pos rfl])]
      cases rest with
      | nil => exact absurd rfl other
      | cons u us => exact ⟨.notDirectory, rfl⟩
    · refine ⟨.missing, FileTree.follow_cons_of_none down ?_⟩
      rw [Table.find?_cons, if_neg hs]
      rfl
  cases h with
  | empty => exact ⟨.missing, FileTree.follow_empty down⟩
  | opened => exact hfile []
  | written => exact hfile _

/-- Is the root of a project a directory without an entry for settings, to which an absolute path leads
downwards? -/
structure Uninitialized (fs : FileSystem) (root : Path) : Prop where
  tree : fs.tree.WellFormed
  absolute : root.absolute = true
  down : ".." ∉ root.segments
  directory : fs.hasDirectory root = true
  noEntry : fs.hasEntry (settingsPlace root) = false

namespace Uninitialized

variable {fs : FileSystem} {root p : Path} {es : List (String × FileTree)} {draft : FileTree}

/-! ## Files -/

/-- The place of the settings is below the root, so the path to it leads downwards only. -/
theorem down_place (h : Uninitialized fs root) : ".." ∉ root.segments ++ [Settings.directoryName] := by
  rw [List.mem_append, not_or]
  exact ⟨h.down, by decide⟩

theorem absolute_place (h : Uninitialized fs root) : (settingsPlace root).absolute = true := h.absolute

/-- The root is a directory. -/
theorem exists_entries (h : Uninitialized fs root) :
    ∃ es, FileTree.follow [] fs.tree root.segments = .ok (.directory es) := by
  have hdirectory := h.directory
  rw [FileSystem.hasDirectory, FileSystem.at?, FileSystem.segmentsOf_of_absolute h.absolute,
    FileTree.at?] at hdirectory
  rcases hfollow : FileTree.follow [] fs.tree root.segments with e | ⟨bytes | es⟩
  · simp [hfollow, Except.toOption] at hdirectory
  · simp [hfollow, Except.toOption, FileTree.isDirectory] at hdirectory
  · exact ⟨es, rfl⟩

/-- There is no entry for settings in it. -/
theorem find?_entries (h : Uninitialized fs root)
    (hes : FileTree.follow [] fs.tree root.segments = .ok (.directory es)) :
    Table.find? es Settings.directoryName = none := by
  have hentry := h.noEntry
  rw [FileSystem.hasEntry, FileSystem.at?, FileSystem.segmentsOf_of_absolute h.absolute_place,
    settingsPlace, Path.below, FileTree.at?, FileTree.follow_append_of_ok (by decide) hes,
    FileTree.follow_cons (by decide)] at hentry
  cases hfind : Table.find? es Settings.directoryName with
  | none => rfl
  | some t => simp [hfind, FileTree.follow, Except.toOption] at hentry

/-- The place for settings is missing. -/
theorem follow_place (h : Uninitialized fs root) :
    FileTree.follow [] fs.tree (root.segments ++ [Settings.directoryName]) = .error .missing := by
  obtain ⟨es, hes⟩ := h.exists_entries
  rw [FileTree.follow_append_of_ok (by decide) hes,
    FileTree.follow_cons_of_none (by decide) (h.find?_entries hes)]

theorem tree_initialized (h : Uninitialized fs root) (draft : FileTree) : (initialized fs root draft).tree =
    FileTree.put draft (root.segments ++ [Settings.directoryName]) fs.tree :=
  FileSystem.tree_put h.absolute_place draft

/-- Only at the place for settings something new is seen. -/
theorem sameAt (h : Uninitialized fs root) (down : ".." ∉ fs.segmentsOf p)
    (elsewhere : ¬root.segments ++ [Settings.directoryName] <+: fs.segmentsOf p) :
    SameAt fs (initialized fs root draft) p := by
  obtain ⟨es, hes⟩ := h.exists_entries
  have hsegments : (initialized fs root draft).segmentsOf p = fs.segmentsOf p := rfl
  rw [SameAt, h.tree_initialized, hsegments]
  exact FileTree.follow_put_aside h.down_place down hes elsewhere

/-- In the root and below, the same is seen under segments that start with another name. -/
theorem sameAt_below (h : Uninitialized fs root) {name : String} {rest : List String}
    (hname : name ≠ Settings.directoryName) (down : ".." ∉ name :: rest) :
    SameAt fs (initialized fs root draft) (root.below (name :: rest)) := by
  have hsegments : fs.segmentsOf (root.below (name :: rest)) = root.segments ++ name :: rest :=
    FileSystem.segmentsOf_of_absolute h.absolute
  refine h.sameAt ?_ ?_
  · rw [hsegments, List.mem_append, not_or]
    exact ⟨h.down, down⟩
  · rw [hsegments, List.prefix_append_right_inj]
    rintro ⟨_, hrest⟩
    exact hname (List.cons.inj hrest).1.symm

/-- Below the place for settings there is the draft. -/
theorem follow_below_place (h : Uninitialized fs root) {segments : List String}
    (down : ".." ∉ segments) :
    FileTree.follow [] (initialized fs root draft).tree
        (root.segments ++ [Settings.directoryName] ++ segments) =
      FileTree.follow [] draft segments := by
  rw [h.tree_initialized]
  exact FileTree.follow_append_of_ok down (FileTree.follow_put h.down_place)

/-- The root is found under its own path. -/
theorem at?_root (h : Uninitialized fs root)
    (hes : FileTree.follow [] fs.tree root.segments = .ok (.directory es)) :
    fs.at? root = some (.directory es) := by
  rw [FileSystem.at?, FileSystem.segmentsOf_of_absolute h.absolute, FileTree.at?, hes]
  rfl

/-- The root has one more entry. -/
theorem at?_initialized (h : Uninitialized fs root)
    (hes : FileTree.follow [] fs.tree root.segments = .ok (.directory es)) :
    (initialized fs root draft).at? root =
      some (.directory (es ++ [(Settings.directoryName, draft)])) := by
  have hnew : Settings.directoryName ∉ Table.keys es := Table.find?_eq_none_iff.mp (h.find?_entries hes)
  have hput : FileTree.follow []
      (FileTree.put draft (root.segments ++ [Settings.directoryName]) fs.tree) root.segments =
        .ok (FileTree.put draft [Settings.directoryName] (.directory es)) :=
    FileTree.follow_put_above h.down hes
  rw [FileSystem.at?, FileSystem.segmentsOf_of_absolute h.absolute, FileTree.at?, h.tree_initialized,
    hput, FileTree.put, FileTree.put, FileTree.entries, Table.insert_of_not_mem _ hnew]
  rfl

/-- The root is still a directory. -/
theorem hasDirectory_initialized (h : Uninitialized fs root) :
    (initialized fs root draft).hasDirectory root = true := by
  obtain ⟨es, hes⟩ := h.exists_entries
  rw [FileSystem.hasDirectory, h.at?_initialized hes]
  rfl

/-- Below the root there are the files of the draft besides. -/
theorem filesBelow_initialized (h : Uninitialized fs root) : (initialized fs root draft).filesBelow root =
    fs.filesBelow root ++ (FileTree.files [] draft).map (Settings.directoryName :: ·) := by
  obtain ⟨es, hes⟩ := h.exists_entries
  rw [FileSystem.filesBelow, FileSystem.filesBelow, h.at?_root hes, h.at?_initialized hes]
  simp [FileTree.filesOf_eq_flatMap, List.flatMap_append]

/-! ## Settings -/

section Settings

open Settings (layer projectFile userFile overrides toTable load)

/-- A file that is not there is a layer without entries. -/
theorem layer_of_not_hasEntry (h : fs.hasEntry p = false) : layer fs p = .ok [] := by
  rw [layer, if_neg (by simp [h])]

/-- A file that is there is a layer with what it spells. -/
theorem layer_of_file {bytes : List UInt8}
    (h : FileTree.follow [] fs.tree (fs.segmentsOf p) = .ok (.file bytes)) :
    layer fs p = (Toml.ofBytes bytes).mapError .document := by
  have hentry := FileSystem.hasEntry_of_at? (FileSystem.at?_of_follow h)
  have hread : fs.read p = .ok bytes := by
    rw [FileSystem.read, FileTree.read, h]
    rfl
  rw [layer, if_pos hentry, hread]
  rfl

/-- Where there is no file, there is no layer, or a directory that cannot be read. -/
theorem layer_of_not_file (h : ∀ bytes, fs.at? p ≠ some (.file bytes)) :
    layer fs p = if fs.hasEntry p then .error (.file ⟨.isDirectory, p.text⟩) else .ok [] := by
  -- a layer that is not there is empty, one that is a directory cannot be read
  cases hfollow : FileTree.follow [] fs.tree (fs.segmentsOf p) with
  | error e =>
    have hentry := FileSystem.hasEntry_of_follow_error hfollow
    rw [layer_of_not_hasEntry hentry, hentry]
    rfl
  | ok t =>
    have hat := FileSystem.at?_of_follow hfollow
    cases t with
    | file bytes => exact absurd hat (h bytes)
    | directory es =>
      have hentry := FileSystem.hasEntry_of_at? hat
      have hread : fs.read p = .error ⟨.isDirectory, p.text⟩ := by
        rw [FileSystem.read, FileTree.read, hfollow]
        rfl
      rw [layer, if_pos hentry, if_pos hentry, hread]
      rfl

/-- The file of settings has the same segments in every file system, for its path is absolute. -/
theorem segmentsOf_projectFile (h : Uninitialized fs root) (other : FileSystem) :
    other.segmentsOf (projectFile root) =
      root.segments ++ [Settings.directoryName] ++ [Settings.fileName] := by
  have habsolute : (projectFile root).absolute = true := h.absolute
  rw [FileSystem.segmentsOf_of_absolute habsolute, List.append_assoc]
  rfl

/-- Before, the project has no layer of its own. -/
theorem layer_project (h : Uninitialized fs root) : layer fs (projectFile root) = .ok [] := by
  refine layer_of_not_hasEntry (FileSystem.hasEntry_of_follow_error (e := .missing) ?_)
  rw [h.segmentsOf_projectFile]
  exact FileTree.follow_append_of_error (by decide) h.follow_place

/-- A draft of the settings sets nothing, or spells the defaults. -/
theorem layer_project_initialized (h : Uninitialized fs root) (hdraft : Draft draft) :
    ∃ own, layer (initialized fs root draft) (projectFile root) = .ok own ∧
      (own = [] ∨ own = toTable {}) := by
  have hfollow : FileTree.follow [] (initialized fs root draft).tree
      ((initialized fs root draft).segmentsOf (projectFile root)) =
        FileTree.follow [] draft [Settings.fileName] := by
    rw [h.segmentsOf_projectFile, h.follow_below_place (by decide)]
  cases hdraft with
  | empty => exact ⟨[], layer_of_not_hasEntry (FileSystem.hasEntry_of_follow_error hfollow), .inl rfl⟩
  | opened => exact ⟨[], layer_of_file hfollow, .inl rfl⟩
  | written =>
    refine ⟨toTable {}, ?_, .inr rfl⟩
    rw [layer_of_file hfollow, Settings.ofBytes_template]
    rfl

/-- The settings of the user do not stand at the place for those of a project, nor are they their file. -/
theorem userFile_elsewhere (other : FileSystem) {front rest : List String}
    (h : front ++ [Settings.directoryName] ++ rest = other.segmentsOf (userFile other.home)) :
    rest ≠ [] ∧ rest ≠ [Settings.fileName] := by
  obtain ⟨start, hstart⟩ : ∃ start, other.segmentsOf (userFile other.home) =
      start ++ [".config", "jsreq", "jsreq.toml"] := by
    unfold FileSystem.segmentsOf Path.from' userFile Path.below
    split
    · exact ⟨_, rfl⟩
    · exact ⟨_, (List.append_assoc _ _ _).symm⟩
  have hreverse := congrArg List.reverse (h.trans hstart)
  constructor
  · rintro rfl
    simp [Settings.directoryName] at hreverse
  · rintro rfl
    simp [Settings.directoryName, Settings.fileName] at hreverse

/-- When the path to the settings of the user leads downwards only, a draft of those of a project brings no
file of the user in. -/
theorem noUserFile_of_down (h : Uninitialized fs root) (hdraft : Draft draft)
    (down : ".." ∉ fs.segmentsOf (userFile fs.home))
    (noUser : ∀ bytes, fs.at? (userFile fs.home) ≠ some (.file bytes)) :
    NoUserFile fs (initialized fs root draft) := by
  by_cases hplace : root.segments ++ [Settings.directoryName] <+: fs.segmentsOf (userFile fs.home)
  · obtain ⟨rest, hrest⟩ := hplace
    have hdown : ".." ∉ rest := fun hmem => down (hrest ▸ List.mem_append_right _ hmem)
    obtain ⟨hnonempty, hother⟩ := userFile_elsewhere fs hrest
    obtain ⟨s, rest, rfl⟩ := List.exists_cons_of_ne_nil hnonempty
    obtain ⟨e, he⟩ := exists_follow_draft_error hdraft hdown hother
    have hbefore : FileTree.follow [] fs.tree (fs.segmentsOf (userFile fs.home)) = .error .missing := by
      rw [← hrest]
      exact FileTree.follow_append_of_error hdown h.follow_place
    have hafter : FileTree.follow [] (initialized fs root draft).tree
        ((initialized fs root draft).segmentsOf (userFile (initialized fs root draft).home)) = .error e := by
      rw [← he, ← h.follow_below_place hdown, hrest]
      rfl
    exact .of_missing (FileSystem.hasEntry_of_follow_error hbefore)
      (FileSystem.hasEntry_of_follow_error hafter)
  · have hsame : SameAt fs (initialized fs root draft) (userFile fs.home) := h.sameAt down hplace
    refine ⟨noUser, fun bytes hfile => ?_, hsame.hasEntry⟩
    -- What is seen to be a file is a file.
    have hseen := hsame.map_at?
    rw [show (initialized fs root draft).at? (userFile fs.home) = some (.file bytes) from hfile] at hseen
    rcases hat : fs.at? (userFile fs.home) with _ | ⟨bytes' | es⟩
    · simp [hat] at hseen
    · exact noUser bytes' hat
    · simp [hat, FileTree.surface] at hseen

/-- The settings are the same as before, when there is no file of the user. -/
theorem load_initialized (h : Uninitialized fs root) (hdraft : Draft draft)
    (noUser : NoUserFile fs (initialized fs root draft))
    (extensions : Option (List String)) (failFast : Option Bool) :
    load (initialized fs root draft) (projectFile root) (overrides extensions failFast) =
      load fs (projectFile root) (overrides extensions failFast) := by
  have hbefore := layer_of_not_file noUser.noneBefore
  have hafter := layer_of_not_file noUser.noneAfter
  rw [noUser.same] at hafter
  cases hentry : fs.hasEntry (userFile fs.home) with
  | false =>
    rw [hentry, if_neg Bool.false_ne_true] at hbefore hafter
    obtain ⟨own, hown, hdefaults⟩ := h.layer_project_initialized hdraft
    rw [Settings.load_eq_askedSettings _ _ hbefore h.layer_project (.inl rfl),
      Settings.load_eq_askedSettings _ _ hafter hown hdefaults]
  | true =>
    rw [hentry, if_pos rfl] at hbefore hafter
    unfold load
    rw [hbefore, hafter]
    rfl

/-- The settings keep nothing. -/
theorem keep_of_load (h : Uninitialized fs root)
    (noUser : ∀ bytes, fs.at? (userFile fs.home) ≠ some (.file bytes))
    {extensions : Option (List String)} {failFast : Option Bool} {s : Specifiers.Settings}
    (hload : load fs (projectFile root) (overrides extensions failFast) = .ok s) :
    s.filter.keep = [] := by
  have huser := layer_of_not_file noUser
  cases hentry : fs.hasEntry (userFile fs.home) with
  | false =>
    rw [hentry, if_neg Bool.false_ne_true] at huser
    rw [Settings.load_eq_askedSettings _ _ huser h.layer_project (.inl rfl)] at hload
    obtain rfl := Except.ok.inj hload
    rfl
  | true =>
    rw [hentry, if_pos rfl] at huser
    unfold load at hload
    rw [huser] at hload
    cases hload

end Settings

end Uninitialized

/-! ## Patterns and sources -/

namespace Uninitialized

variable {host : Host} {root : Path} {draft : FileTree}

/-- A project is loaded as before. -/
theorem load_project_initialized (h : Uninitialized host.toFileSystem root) (s : Specifiers.Settings) :
    Project.load { host with toFileSystem := initialized host.toFileSystem root draft } root s =
      Project.load host root s := by
  have hsame : SameAt host.toFileSystem (initialized host.toFileSystem root draft)
      (root.below [Ignore.fileName]) := h.sameAt_below (by decide) (by decide)
  have hown : Ignore.ownRules (initialized host.toFileSystem root draft) root =
      Ignore.ownRules host.toFileSystem root := by
    unfold Ignore.ownRules
    dsimp only
    rw [hsame.read, hsame.hasEntry]
  unfold Project.load Ignore.Filter.load
  rw [hown]

/-- A project whose settings keep nothing ignores the file of settings. -/
theorem ignores_settings (h : Uninitialized host.toFileSystem root) {s : Specifiers.Settings}
    {project : Project} {notices : List Notice} (hkeep : s.filter.keep = [])
    (hload : Project.load host root s = .ok (project, notices)) :
    project.root = root ∧ project.settings = s ∧ project.filter.root = root ∧
      project.filter.ignores (root.below [Settings.directoryName, Settings.fileName]) = true := by
  unfold Project.load at hload
  obtain ⟨⟨filter, _⟩, hfilter, hproject⟩ := bind_eq_ok_iff.mp hload
  obtain ⟨rfl, -⟩ := Prod.mk.inj (Except.ok.inj hproject)
  obtain ⟨hroot, hincluded, -, hstandard, -⟩ := Ignore.Filter.of_load hfilter
  refine ⟨rfl, rfl, hroot, ?_⟩
  -- no pattern keeps the file, and a standard pattern selects its name
  have hnothing : filter.included = [] := by
    rw [hkeep] at hincluded
    exact (Except.ok.inj hincluded).symm
  have hselects : filter.standard.selects ".jsreq/jsreq.toml" = true := by
    have hdecided : (Ignore.rulesOf Ignore.standardPatterns).toOption.all
        (·.selects ".jsreq/jsreq.toml") = true := by decide +kernel
    rw [hstandard] at hdecided
    exact hdecided
  have hname : Ignore.Filter.nameBelow root [Settings.directoryName, Settings.fileName] =
      ".jsreq/jsreq.toml" := by
    rw [Ignore.Filter.nameBelow, if_pos h.absolute]
    rfl
  rw [← hroot, Ignore.Filter.ignores_below, hroot, hname, Ignore.Filter.ignoresRelative, hnothing,
    hselects]
  simp [Ignore.Rules.selects]

/-- A source of the project is seen as before. -/
theorem sameAt_source {fs : FileSystem} (h : Uninitialized fs root) {source : List String}
    (hmem : source ∈ fs.filesBelow root) : SameAt fs (initialized fs root draft) (root.below source) := by
  obtain ⟨es, hes⟩ := h.exists_entries
  have hdown : ".." ∉ source :=
    FileTree.dots_notMem (FileSystem.isSegment_of_mem_filesBelow h.tree hmem)
  rw [FileSystem.filesBelow, h.at?_root hes] at hmem
  obtain ⟨e, he, rest, -, rfl⟩ := FileTree.mem_filesOf_iff.mp hmem
  refine h.sameAt_below (fun hname => ?_) hdown
  exact Table.find?_eq_none_iff.mp (h.find?_entries hes) (List.mem_map.mpr ⟨e, he, hname⟩)

/-! ## The scan -/

/-- The scan of a project whose settings keep nothing is the same as before. -/
theorem scan_initialized (h : Uninitialized host.toFileSystem root) (hdraft : Draft draft)
    {project : Project} (hroot : project.root = root) (hfilter : project.filter.root = root)
    (ignored : project.filter.ignores (root.below [Settings.directoryName, Settings.fileName]) = true) :
    project.scan { host with toFileSystem := initialized host.toFileSystem root draft } =
      project.scan host := by
  have hsources : project.sources { host with toFileSystem := initialized host.toFileSystem root draft } =
      project.sources host := by
    refine Ignore.Filter.sources_of_ignored (by rw [hfilter]; exact h.filesBelow_initialized) ?_
    rintro _ hmem
    obtain ⟨rest, hrest, rfl⟩ := List.mem_map.mp hmem
    rw [files_of_draft hdraft rest hrest, hfilter]
    exact ignored
  refine Project.scan_congr ?_ hsources fun source hmem => ?_
  · rw [hroot, h.hasDirectory_initialized, h.directory]
  · have hfile := (Ignore.Filter.mem_sources_iff.mp hmem).1
    rw [hfilter] at hfile
    rw [hroot]
    exact (h.sameAt_source hfile).read

end Uninitialized

end Specifiers
