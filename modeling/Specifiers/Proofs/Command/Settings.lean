import Specifiers.Command.Run
import Specifiers.Proofs.FileChange

/-!
# Making settings

What is made of the files where settings are made: all of them, or a part when the host refuses an operation
(`Stage`). Nothing else is changed either way. Settings cannot be made below a file, and then nothing is
changed. Settings that are to be made anew are removed first, as far as the host allows it.
-/

namespace Specifiers

namespace Command

open Change (Meets Refused Removes OnTheWay)
open FileTree (follow put Keeps)

variable {host : Host} {place : Path} {t : FileTree} {es : List (String × FileTree)} {old : Option FileTree}

/-- The directory for the settings of the project at a root. -/
def settingsPlace (root : Path) : Path := root.below [Settings.directoryName]

/-- The directory for the settings of the project that a text names. -/
def placeOf (here : Path) (repo : String) : Path := settingsPlace ((Path.ofString repo).resolve here)

/-- What `init` tells when it has made the directory for settings at a place. -/
def settingsMessages (place : Path) : List String :=
  ["[green]Initialized jsreq in " ++ place.text ++ "[/green]",
    "Configuration created at: " ++ (place.below [Settings.fileName]).text]

/-! ## Operations -/

/-- The operations that settings at a place take: looking for them, making directories on the way, reading
the file that projects start with, writing it, and removing what stands there and is to be replaced. -/
inductive Takes (place : Path) (old : Option FileTree) : FileOperation → Prop
  | look : Takes place old (.look place)
  | makeDirectory {way : List String} (h : way <+: place.segments) :
      Takes place old (.makeDirectory ⟨place.anchor, way⟩)
  | readTemplate : Takes place old .readTemplate
  | openFile : Takes place old (.openFile (place.below [Settings.fileName]))
  | write : Takes place old (.write (place.below [Settings.fileName]))
  | remove {t : FileTree} {op : FileOperation} (there : old = some t) (h : Removes place t op) :
      Takes place old op

/-- What is taken where nothing is to be replaced is taken anyway. -/
theorem Takes.of_none {op : FileOperation} (h : Takes place none op) : Takes place old op := by
  cases h with
  | look => exact .look
  | makeDirectory hway => exact .makeDirectory hway
  | readTemplate => exact .readTemplate
  | openFile => exact .openFile
  | write => exact .write
  | remove there _ => cases there

/-! ## Stages -/

/-- The directory for settings on the way to being made: it is empty, or has its file, which is empty at
first. -/
inductive Draft : FileTree → Prop
  | empty : Draft (.directory [])
  | opened : Draft (.directory [(Settings.fileName, .file [])])
  | written : Draft settingsDirectory

/-- What can be made of a tree until settings at a place are made: nothing, a directory on the way to the
place, or a draft of the settings at it. -/
inductive Stage (place : List String) (before : FileTree) : FileTree → Prop
  | onTheWay {after : FileTree} (h : OnTheWay place before after) : Stage place before after
  | drafted {draft : FileTree} (missing : follow [] before place = .error .missing) (h : Draft draft) :
      Stage place before (put draft place before)

/-- At each stage everything outside the place is as it was, but for directories on the way. -/
theorem Stage.keeps {place : List String} {before after : FileTree} (down : ".." ∉ place)
    (h : Stage place before after) : Keeps place before after := by
  rcases h with (rfl | ⟨way, hway, missing, rfl⟩) | ⟨missing, -⟩
  · exact .refl place _
  · exact .put_directory down hway missing
  · refine .put down ?_
    rw [missing]
    nofun

/-! ## Writing settings -/

/-- When the file of settings that projects start with is not read, the host has refused that. -/
theorem readTemplate_meets {steps : FileOperation → Prop} (hop : steps .readTemplate) :
    Meets (readTemplate host) t (fun _ after => after = t)
      fun _ after => after = t ∧ Refused host.refuses steps t := by
  refine .tryCatch (Change.ask_meets hop) ?_
  rintro e t ⟨rfl, hrefused, -⟩
  exact ⟨rfl, hrefused⟩

/-- Where nothing stands settings are made, unless the host refuses one of the operations: then they are
left at a stage. -/
theorem writeSettings_meets (host : Host) (down : ".." ∉ place.segments)
    (missing : follow [] t place.segments = .error .missing) :
    Meets (writeSettings host place) t (fun _ after => after = put settingsDirectory place.segments t)
      fun _ after => Stage place.segments t after ∧ Refused host.refuses (Takes place old) after := by
  let file := place.below [Settings.fileName]
  have hfile : file.segments = place.segments ++ [Settings.fileName] := rfl
  have hreverse : place.segments.reverse.reverse = place.segments := List.reverse_reverse _
  have hmade : follow [] (put (.directory []) place.segments t) place.segments = .ok (.directory []) :=
    FileTree.follow_put down
  have hput (inner : FileTree) : put inner file.segments (put (.directory []) place.segments t) =
      put (.directory [(Settings.fileName, inner)]) place.segments t := by
    rw [hfile, FileTree.put_append_put]
    rfl
  have htemplate : Takes place old .readTemplate := .readTemplate
  have hopen : Takes place old (.openFile file) := .openFile
  have hwrite : Takes place old (.write file) := .write
  have hways : ∀ way, way <+: place.segments.reverse.reverse →
      Takes place old (.makeDirectory ⟨place.anchor, way⟩) := by
    rw [hreverse]
    exact fun _ => .makeDirectory
  refine .bind ((Change.makeDirectories_meets (by simpa using down) hways (by rwa [hreverse])).mono_failed
    fun _ _ h => ⟨.onTheWay (hreverse ▸ h.1), h.2⟩) ?_
  rintro _ _ rfl
  rw [hreverse]
  refine .bind ((readTemplate_meets htemplate).mono_failed ?_) ?_
  · rintro _ _ ⟨rfl, hrefused⟩
    exact ⟨.drafted missing .empty, hrefused⟩
  rintro _ _ rfl
  have hmissing : follow [] (put (.directory []) place.segments t) file.segments = .error .missing := by
    rw [hfile, FileTree.follow_append_of_ok (by decide) hmade, FileTree.follow_empty (by decide)]
  refine .bind ((Change.openFile_meets hopen hfile hmissing hmade).mono_failed ?_) ?_
  · rintro _ _ ⟨rfl, hrefused⟩
    exact ⟨.drafted missing .empty, hrefused⟩
  rintro _ _ rfl
  rw [hput]
  refine (Change.write_meets hwrite _).mono ?_ ?_
  · rintro _ _ rfl
    rw [hfile, FileTree.put_append_put]
    rfl
  · rintro _ _ ⟨rfl, hrefused⟩
    exact ⟨.drafted missing .opened, hrefused⟩

/-- Below a file no settings can be made, and nothing is changed. -/
theorem writeSettings_of_notDirectory (host : Host) (down : ".." ∉ place.segments)
    (h : follow [] t place.segments = .error .notDirectory) :
    Meets (writeSettings host place) t (fun _ _ => False) fun _ after => after = t := by
  have hreverse : place.segments.reverse.reverse = place.segments := List.reverse_reverse _
  exact .bind (Change.makeDirectories_of_notDirectory (by simpa using down) (by rwa [hreverse]))
    fun _ _ h => h.elim

/-! ## What making settings comes to -/

/-- What comes of making settings where nothing stands. -/
inductive Makes (host : Host) (place : Path) : Outcome → Prop
  | made (missing : follow [] host.tree place.segments = .error .missing) :
      Makes host place (.printing
        (host.withTree (put settingsDirectory place.segments host.tree)) (settingsMessages place))
  /-- The host has refused an operation. -/
  | stopped {after : FileTree} (messages : List String) (stage : Stage place.segments host.tree after)
      (refused : Refused host.refuses (Takes place none) after) :
      Makes host place (.printing (host.withTree after) messages 1)
  /-- A file is in the way. -/
  | blocked (messages : List String)
      (file : follow [] host.tree place.segments = .error .notDirectory) :
      Makes host place (.printing host messages 1)

/-- Where nothing stands settings are made, or they cannot be made. -/
theorem makes_makeSettings {e : FileFault} (down : ".." ∉ place.segments)
    (h : follow [] host.tree place.segments = .error e) : Makes host place (makeSettings host place) := by
  rw [makeSettings, EStateM.run]
  rcases FileTree.error_of_follow h with rfl | rfl
  · rcases (writeSettings_meets host down h).run_cases with
      ⟨_, after, hrun, rfl⟩ | ⟨e, after, hrun, hstage, hrefused⟩
    · rw [hrun]
      exact .made h
    · rw [hrun]
      exact .stopped _ hstage hrefused
  · rcases (writeSettings_of_notDirectory host down h).run_cases with
      ⟨_, _, _, hnever⟩ | ⟨e, after, hrun, rfl⟩
    · exact hnever.elim
    · rw [hrun]
      exact .blocked _ h

/-- Settings that are there are removed and made anew, unless the host refuses to remove them. -/
theorem replaceSettings_cases (old : List (String × FileTree)) {above : List String} {name : String}
    (hplace : place.segments = above ++ [name]) (down : ".." ∉ place.segments)
    (directory : follow [] host.tree above = .ok (.directory es)) :
    (∃ removed, Keeps place.segments host.tree removed ∧
        follow [] removed place.segments = .error .missing ∧
        replaceSettings host place (.directory old) = makeSettings (host.withTree removed) place) ∨
      ∃ removed e, Keeps place.segments host.tree removed ∧
        Refused host.refuses (Takes place (some (.directory old))) removed ∧
        replaceSettings host place (.directory old) = .broken (host.withTree removed) (.change e) := by
  have hdirectory : (FileTree.directory old).isDirectory = true := rfl
  rw [replaceSettings, if_pos hdirectory, EStateM.run]
  have hops : ∀ op, Removes place (.directory old) op → Takes place (some (.directory old)) op :=
    fun _ => .remove rfl
  rcases (Change.removeDirectory_meets host.refuses old hops hplace down directory).run_cases with
    ⟨_, removed, hrun, hkeeps, hmissing⟩ | ⟨e, removed, hrun, hkeeps, hrefused⟩
  · rw [hrun]
    exact .inl ⟨removed, hkeeps, hmissing, rfl⟩
  · rw [hrun]
    exact .inr ⟨removed, e, hkeeps, hrefused, rfl⟩

/-- What comes of `init`. -/
inductive Inits (host : Host) (place : Path) : Bool → Outcome → Prop
  /-- Nothing is changed: settings that are there cannot be overwritten, or not even looked for. -/
  | failed {overwrite : Bool} {o : Outcome} (files : o.files = host) (exit : o.exit = 1)
      (why : host.hasEntry place = true ∨ Refused host.refuses (Takes place none) host.tree) :
      Inits host place overwrite o
  | makes {overwrite : Bool} {o : Outcome} (noEntry : host.hasEntry place = false)
      (h : Makes host place o) : Inits host place overwrite o
  | stays (entry : host.hasEntry place = true) (messages : List String) :
      Inits host place false (.printing host messages)
  /-- The settings have been removed, and are made anew. -/
  | makesAnew {tree : FileTree} {o : Outcome} (entry : host.hasEntry place = true)
      (keeps : Keeps place.segments host.tree tree)
      (missing : FileTree.follow [] tree place.segments = .error .missing)
      (h : Makes (host.withTree tree) place o) (output : String) : Inits host place true (o.after output)
  /-- The host has refused to remove the settings, which may have been removed in part. -/
  | removes {tree : FileTree} (entry : host.hasEntry place = true)
      (keeps : Keeps place.segments host.tree tree)
      (refused : Refused host.refuses (Takes place (host.at? place)) tree) (e : ChangeError)
      (output : String) : Inits host place true
        ((Outcome.broken (host.withTree tree) (.change e)).after output)

/-- Is a place absolute, and reached by going downwards? -/
structure Place (place : Path) : Prop where
  absolute : place.absolute = true
  down : ".." ∉ place.segments

theorem place_placeOf {here : Path} (h : here.absolute = true) (repo : String) :
    Place (placeOf here repo) where
  absolute := Path.absolute_resolve _ h
  down := by
    rw [placeOf, settingsPlace, Path.below, List.mem_append, not_or]
    exact ⟨Path.dots_notMem_resolve _ _, by decide⟩

/-- What stands at a place stands there in the tree. -/
theorem Place.at?_eq (h : Place place) : host.at? place = host.tree.at? place.segments := by
  rw [FileSystem.at?, FileSystem.segmentsOf_of_absolute h.absolute]

/-- Settings that are there are made anew, in the directory in which they are. -/
theorem inits_replaceSettings {root : Path} {old : List (String × FileTree)} (hplace : Place place)
    (hroot : settingsPlace root = place) (hat : host.at? place = some (.directory old)) (output : String) :
    Inits host place true ((replaceSettings host place (.directory old)).after output) := by
  have hentry := FileSystem.hasEntry_of_at? hat
  have hsegments : place.segments = root.segments ++ [Settings.directoryName] := by rw [← hroot]; rfl
  have hfollow := hat
  rw [hplace.at?_eq, FileTree.at?_eq_some_iff, hsegments] at hfollow
  obtain ⟨es, hdirectory⟩ := FileTree.directory_of_follow (by decide) hfollow
  rcases replaceSettings_cases old hsegments hplace.down hdirectory with
    ⟨removed, hkeeps, hmissing, hmakes⟩ | ⟨removed, e, hkeeps, hrefused, hbroken⟩
  · rw [hmakes]
    exact .makesAnew hentry hkeeps hmissing (makes_makeSettings hplace.down hmissing) output
  · rw [hbroken]
    exact .removes hentry hkeeps (hat ▸ hrefused) e output

/-- A run of `init` makes settings where there are none, and leaves them as they are unless they are to be
overwritten. -/
theorem inits_init (here : host.here.absolute = true) (repo : String) (overwrite : Bool) :
    Inits host (placeOf host.here repo) overwrite (init host repo overwrite) := by
  let root := (Path.ofString repo).resolve host.here
  have hplace := place_placeOf here repo
  have hroot : root.below [Settings.directoryName] = placeOf host.here repo := rfl
  unfold init
  simp only [root, hroot, EStateM.run]
  have hlooks := Change.look?_meets host.refuses (Takes (placeOf host.here repo) none) host.tree .look
  rcases hlooks.run_cases with
    ⟨found, _, hrun, -, hfound⟩ | ⟨e, _, hrun, -, hrefused⟩
  · rw [hrun]
    rw [← hplace.at?_eq] at hfound
    subst hfound
    -- from here the cases of `Inits`: nothing there, something kept, something in the way
    cases hat : host.at? (placeOf host.here repo) with
    | none =>
      refine .makes (FileSystem.hasEntry_of_at?_eq_none hat) ?_
      rw [hplace.at?_eq, FileTree.at?] at hat
      cases hfollow : follow [] host.tree (placeOf host.here repo).segments with
      | ok t => simp [hfollow, Except.toOption] at hat
      | error e => exact makes_makeSettings hplace.down hfollow
    | some old =>
      have hentry := FileSystem.hasEntry_of_at? hat
      dsimp only
      cases overwrite with
      | false =>
        rw [if_neg Bool.false_ne_true]
        exact .stays hentry _
      | true =>
        rw [if_pos (rfl : true = true)]
        generalize Console.line host.display _ = line
        cases line with
        | error e => exact .failed rfl rfl (.inl hentry)
        | ok output =>
          -- only a directory can be removed, a file of that name stops the command before it changes anything
          cases old with
          | file bytes =>
            have hbroken : replaceSettings host (placeOf host.here repo) (.file bytes) =
                .broken host (.notRemovable (placeOf host.here repo).text) := by
              rw [replaceSettings, if_neg (by simp [FileTree.isDirectory])]
            rw [hbroken]
            exact .failed rfl rfl (.inl hentry)
          | directory old => exact inits_replaceSettings hplace rfl hat output
  · rw [hrun]
    exact .failed rfl rfl (.inr hrefused)

end Command

end Specifiers
