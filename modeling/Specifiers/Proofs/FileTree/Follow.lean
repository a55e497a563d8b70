import Specifiers.Proofs.FileTree

/-!
# Where segments lead

Segments without double dots lead downwards, one entry after the other, and it does not matter which
directories are above. So segments lead on from where those before them lead (`follow_append`). The files
that are listed below a directory are those to which segments lead in this way
(`FileSystem.mem_filesBelow_iff`).
-/

namespace Specifiers

namespace FileTree

variable {t inner : FileTree} {es : List (String × FileTree)} {s : String}
  {place rest segments : List String}

/-! ## Leading downwards -/

/-- The first of some segments is looked up, unless it is a double dot. -/
theorem follow_entry (above : List FileTree) (hs : s ≠ "..") :
    follow above (directory es) (s :: rest) =
      match Table.find? es s with
      | some inner => follow (directory es :: above) inner rest
      | none => .error .missing := by
  rw [follow.eq_def]
  simp only [beq_eq_false_iff_ne.mpr hs, Bool.false_eq_true, if_false]
  rfl

/-- Without double dots the directories above have no part in where segments lead. -/
theorem follow_above (down : ".." ∉ segments) (above : List FileTree) :
    follow above t segments = follow [] t segments := by
  induction segments generalizing above t with
  | nil => rfl
  | cons s rest ih =>
    obtain ⟨hs, hrest⟩ := List.ne_and_not_mem_of_not_mem_cons down
    cases t with
    | file bytes => rfl
    | directory es =>
      rw [follow_entry above hs.symm, follow_entry [] hs.symm]
      cases Table.find? es s with
      | none => rfl
      | some inner =>
        dsimp only
        rw [ih hrest (directory es :: above), ih hrest [directory es]]

/-- In a directory the first segment names an entry, unless it leads back upwards. -/
theorem follow_cons (down : ".." ∉ s :: rest) : follow [] (directory es) (s :: rest) =
    match Table.find? es s with
    | some inner => follow [] inner rest
    | none => .error .missing := by
  obtain ⟨hs, hrest⟩ := List.ne_and_not_mem_of_not_mem_cons down
  rw [follow_entry [] hs.symm]
  cases Table.find? es s with
  | none => rfl
  | some inner => exact follow_above hrest _

/-- An entry that is there is followed. -/
theorem follow_cons_of_some (down : ".." ∉ s :: rest) (h : Table.find? es s = some inner) :
    follow [] (directory es) (s :: rest) = follow [] inner rest := by
  rw [follow_cons down, h]

/-- An entry that is not there is missing. -/
theorem follow_cons_of_none (down : ".." ∉ s :: rest) (h : Table.find? es s = none) :
    follow [] (directory es) (s :: rest) = .error .missing := by
  rw [follow_cons down, h]

/-- In an empty directory everything is missing. -/
theorem follow_empty (down : ".." ∉ s :: rest) :
    follow [] (directory []) (s :: rest) = .error .missing :=
  follow_cons_of_none down rfl

/-- Segments lead on from where those before them lead. -/
theorem follow_append (place : List String) (down : ".." ∉ segments) (above : List FileTree) :
    follow above t (place ++ segments) = (follow above t place >>= (follow [] · segments)) := by
  -- The place may lead upwards, so the directories above it are generalised.
  induction place generalizing above t with
  | nil => exact follow_above down above
  | cons s place ih =>
    cases t with
    | file bytes => rfl
    | directory es =>
      rw [List.cons_append]
      by_cases hs : s = ".."
      · subst hs
        cases above with
        | nil => exact ih []
        | cons outer above => exact ih above
      · rw [follow_entry above hs, follow_entry above hs]
        cases Table.find? es s with
        | none => rfl
        | some inner => exact ih (directory es :: above)

/-- From a place that is there one goes on as from a root of its own. -/
theorem follow_append_of_ok (down : ".." ∉ segments) (h : follow [] t place = .ok inner) :
    follow [] t (place ++ segments) = follow [] inner segments := by
  rw [follow_append place down, h]
  rfl

/-- What cannot be followed cannot be followed any further. -/
theorem follow_append_of_error {e : FileFault} (down : ".." ∉ segments)
    (h : follow [] t place = .error e) : follow [] t (place ++ segments) = .error e := by
  rw [follow_append place down, h]
  rfl

/-- What cannot be followed is missing, or there is a file in the way. -/
theorem error_of_follow {above : List FileTree} {e : FileFault} (h : follow above t segments = .error e) :
    e = .missing ∨ e = .notDirectory := by
  induction segments generalizing above t with
  | nil => cases h
  | cons s rest ih =>
    cases t with
    | file bytes => exact .inr (Except.error.inj h).symm
    | directory es =>
      rw [follow.eq_def] at h
      dsimp only at h
      split at h
      · cases above with
        | nil => exact ih h
        | cons outer above => exact ih h
      · split at h
        · exact ih h
        · exact .inl (Except.error.inj h).symm

/-- Where something is missing, so is what is above it, or else that is a directory. -/
theorem follow_of_missing (down : ".." ∉ place ++ [s])
    (h : follow [] t (place ++ [s]) = .error .missing) :
    follow [] t place = .error .missing ∨ ∃ es, follow [] t place = .ok (directory es) := by
  have hs : ".." ∉ [s] := fun hmem => down (List.mem_append_right _ hmem)
  rw [follow_append place hs] at h
  rcases hplace : follow [] t place with e | ⟨bytes | es⟩
  · rw [hplace] at h
    exact .inl h
  · rw [hplace] at h
    cases h
  · exact .inr ⟨es, rfl⟩

/-- What is above something that is there is a directory. -/
theorem directory_of_follow (hs : s ≠ "..") (h : follow [] t (place ++ [s]) = .ok inner) :
    ∃ es, follow [] t place = .ok (directory es) := by
  rw [follow_append place (by simpa using hs.symm)] at h
  rcases hplace : follow [] t place with e | ⟨bytes | es⟩
  · rw [hplace] at h
    cases h
  · rw [hplace] at h
    cases h
  · exact ⟨es, rfl⟩

/-! ## What is in the way -/

/-- Nothing is in the way of an entry of a directory. -/
theorem faultAbove?_of_directory (h : follow [] t place = .ok (directory es)) :
    t.faultAbove? (place ++ [s]) = none := by
  rw [faultAbove?, List.dropLast_concat, h]

/-- When what is above is missing, this is the fault. -/
theorem faultAbove?_of_error {e : FileFault} (h : follow [] t place = .error e) :
    t.faultAbove? (place ++ [s]) = some e := by
  rw [faultAbove?, List.dropLast_concat, h]

/-- What is in the way of segments that lead through a file is that it is no directory. -/
theorem faultAbove?_of_notDirectory (down : ".." ∉ place ++ [s])
    (h : follow [] t (place ++ [s]) = .error .notDirectory) :
    t.faultAbove? (place ++ [s]) = some .notDirectory := by
  have hs : ".." ∉ [s] := fun hmem => down (List.mem_append_right _ hmem)
  rw [follow_append place hs] at h
  rcases hplace : follow [] t place with e | ⟨bytes | es⟩
  · rw [hplace] at h
    rw [faultAbove?_of_error hplace, Except.error.inj h]
  · rw [faultAbove?, List.dropLast_concat, hplace]
  · rw [hplace] at h
    have hentry : follow [] (directory es) [s] = .error .notDirectory := h
    rw [follow_cons hs] at hentry
    cases hfind : Table.find? es s <;> simp [hfind, follow] at hentry

/-! ## The files that are listed -/

/-- Names of entries lead downwards. -/
theorem dots_notMem (h : ∀ s ∈ segments, Path.IsSegment s) : ".." ∉ segments :=
  fun hmem => (h _ hmem).noDots rfl

/-- What is at a place is what following leads to. -/
theorem at?_eq_some_iff : t.at? segments = some inner ↔ follow [] t segments = .ok inner := by
  rw [at?]
  cases follow [] t segments <;> simp [Except.toOption]

/-- The files of a well-formed tree are listed under the names that lead to them. -/
theorem mem_files_iff (h : t.WellFormed) : segments ∈ files [] t ↔
    (∀ s ∈ segments, Path.IsSegment s) ∧ ∃ bytes, follow [] t segments = .ok (file bytes) := by
  induction h generalizing segments with
  | file bytes => cases segments <;> simp [files, follow]
  | @directory es names hsegments _ ih =>
    -- Since names are different, an entry of a directory is what is found under its name.
    rw [files, mem_filesOf_iff]
    cases segments with
    | nil => simp [follow]
    | cons s rest =>
      constructor
      · rintro ⟨e, he, rest', hrest, heq⟩
        obtain ⟨rfl, rfl⟩ := List.cons.inj heq
        obtain ⟨hbelow, bytes, hfollow⟩ := (ih e he).mp hrest
        have hall := List.forall_mem_cons.mpr ⟨hsegments e he, hbelow⟩
        have hfind : Table.find? es e.1 = some e.2 := (Table.find?_eq_some_iff names).mpr he
        exact ⟨hall, bytes, (follow_cons_of_some (dots_notMem hall) hfind).trans hfollow⟩
      · rintro ⟨hall, bytes, hfollow⟩
        obtain ⟨-, hbelow⟩ := List.forall_mem_cons.mp hall
        cases hfind : Table.find? es s with
        | none => simp [follow_cons_of_none (dots_notMem hall) hfind] at hfollow
        | some inner =>
          rw [follow_cons_of_some (dots_notMem hall) hfind] at hfollow
          have he := Table.mem_of_find? hfind
          exact ⟨(s, inner), he, rest, (ih _ he).mpr ⟨hbelow, bytes, hfollow⟩, rfl⟩

end FileTree

namespace FileSystem

variable {fs : FileSystem} {p : Path} {t : FileTree} {segments : List String}

/-- What a path leads to stands there. -/
theorem at?_of_follow (h : FileTree.follow [] fs.tree (fs.segmentsOf p) = .ok t) : fs.at? p = some t :=
  FileTree.at?_eq_some_iff.mpr h

/-- Where something stands there is an entry. -/
theorem hasEntry_of_at? (h : fs.at? p = some t) : fs.hasEntry p = true := by
  rw [hasEntry, h, Option.isSome_some]

/-- Where nothing stands there is no entry. -/
theorem hasEntry_of_at?_eq_none (h : fs.at? p = none) : fs.hasEntry p = false := by
  rw [hasEntry, h, Option.isSome_none]

/-- Where a path cannot be followed there is no entry. -/
theorem hasEntry_of_follow_error {e : FileFault}
    (h : FileTree.follow [] fs.tree (fs.segmentsOf p) = .error e) : fs.hasEntry p = false := by
  rw [hasEntry, at?, FileTree.at?, h]
  rfl

/-- Does a file stand below a path, under the names of entries? -/
def IsFileBelow (fs : FileSystem) (p : Path) (segments : List String) : Prop :=
  segments ≠ [] ∧ (∀ s ∈ segments, Path.IsSegment s) ∧
    ∃ bytes, fs.at? (p.below segments) = some (.file bytes)

/-- The segments of a path below another one go on where those of the other end. -/
theorem segmentsOf_below (fs : FileSystem) (p : Path) (segments : List String) :
    fs.segmentsOf (p.below segments) = fs.segmentsOf p ++ segments := by
  unfold segmentsOf Path.from'
  rw [Path.absolute_below]
  split
  · rfl
  · exact (List.append_assoc _ _ _).symm

/-- What stands below a path stands below what stands there. -/
theorem at?_below (down : ".." ∉ segments) :
    fs.at? (p.below segments) = (fs.at? p).bind fun t => t.at? segments := by
  rw [at?, at?, segmentsOf_below, FileTree.at?, FileTree.at?, FileTree.follow_append _ down]
  cases FileTree.follow [] fs.tree (fs.segmentsOf p) <;> rfl

/-- The files below a path are listed, and nothing else. -/
theorem mem_filesBelow_iff (h : fs.tree.WellFormed) :
    segments ∈ fs.filesBelow p ↔ fs.IsFileBelow p segments := by
  unfold IsFileBelow
  by_cases hnames : ∀ s ∈ segments, Path.IsSegment s
  swap
  · exact iff_of_false (fun hmem => hnames (isSegment_of_mem_filesBelow h hmem)) fun hall => hnames hall.2.1
  rw [and_iff_right hnames, at?_below (FileTree.dots_notMem hnames), filesBelow]
  rcases hat : fs.at? p with _ | ⟨bytes | es⟩
  · simp
  · -- Nothing stands below a file.
    cases segments <;> simp [FileTree.at?, FileTree.follow, Except.toOption]
  · have hfiles : segments ∈ FileTree.files [] (.directory es) ↔ _ :=
      FileTree.mem_files_iff (wellFormed_of_at? h hat)
    rw [FileTree.files, and_iff_right hnames] at hfiles
    simp only [hfiles, Option.bind_some, FileTree.at?_eq_some_iff, iff_and_self]
    rintro ⟨bytes, hfollow⟩ rfl
    cases hfollow

end FileSystem

end Specifiers
