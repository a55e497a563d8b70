import Specifiers.Proofs.Ignore.Filter
import Specifiers.Proofs.Ignore.Pattern
import Specifiers.Proofs.Ignore.Rules

/-!
# What every project ignores

A project without patterns of its own ignores what the standard patterns select. These are patterns of
one segment, so they say something about the segments of a path wherever they stand: what lies below a
directory of certain names is ignored, though not a file of such a name, and so is every path with a
segment of a certain name or ending.
-/

namespace Specifiers

namespace Ignore

/-! ## The patterns -/

/-- The pattern of what lies in directories of a name. -/
def directoryPattern (name : String) : Pattern :=
  ⟨true, .atAnyDepth (name.toList.map .char) .inDirectory⟩

/-- The pattern of a name. -/
def namePattern (name : String) : Pattern := ⟨true, .atAnyDepth (name.toList.map .char) .whole⟩

/-- The pattern of the names with an ending. -/
def endingPattern (ending : String) : Pattern :=
  ⟨true, .atAnyDepth (.anyRun :: ending.toList.map .char) .whole⟩

/-- The patterns that every project excludes, as they are read. -/
def standardRules : Rules :=
  [".git", "node_modules", "bower_components", "jspm_packages", "build", "dist", "coverage"].map
    directoryPattern ++
    [endingPattern ".min.js", endingPattern ".map", namePattern ".DS_Store", directoryPattern ".jsreq"]

theorem rulesOf_standardPatterns : rulesOf standardPatterns = .ok standardRules := by rfl

/-! ## What they meet -/

/-- Characters without a slash mean a text without one. -/
theorem slash_notMem_of_means {name taken : List Char} (h : '/' ∉ name)
    (means : Means (name.map .char) taken) : '/' ∉ taken := by
  rwa [means_map_char.mp means]

/-- Are these the segments of a path in one line? -/
def AreOfOneLine (segments : List String) : Prop :=
  ∀ s ∈ segments, s.toList ≠ [] ∧ '/' ∉ s.toList ∧ '\n' ∉ s.toList

section

variable {segments : List String} (nonempty : segments ≠ []) (plain : AreOfOneLine segments)

include nonempty plain

theorem pieces_of_areOfOneLine :
    Split.pieces '/' (Path.relativeText segments).toList = segments.map String.toList :=
  Path.pieces_relativeText nonempty fun s hs => (plain s hs).2.1

/-- The text of such segments is one line. -/
theorem line_of_areOfOneLine : '\n' ∉ (Path.relativeText segments).toList := by
  intro hmem
  rcases Split.eq_or_exists_mem_pieces '/' hmem with h | ⟨piece, hpiece, h⟩
  · exact absurd h (by decide)
  · rw [pieces_of_areOfOneLine nonempty plain] at hpiece
    obtain ⟨s, hs, rfl⟩ := List.mem_map.mp hpiece
    exact (plain s hs).2.2 h

/-- The text of such segments does not begin with a slash, since the first of them is not empty. -/
theorem head?_of_areOfOneLine : (Path.relativeText segments).toList.head? ≠ some '/' := by
  intro hhead
  obtain ⟨rest, hrest⟩ := List.head?_eq_some_iff.mp hhead
  have hpieces := pieces_of_areOfOneLine nonempty plain
  rw [hrest, ← List.nil_append ('/' :: rest), Split.pieces_append_cons] at hpieces
  have hnil : [] ∈ segments.map String.toList := by
    rw [← hpieces]
    exact List.mem_append_left _ (List.mem_singleton.mpr rfl)
  obtain ⟨s, hs, h⟩ := List.mem_map.mp hnil
  exact (plain s hs).1 h

/-- A pattern of one segment meets a path that has a segment with its meaning. -/
theorem hit?_whole_segments {ts : List Token} (segment : ∀ taken, Means ts taken → '/' ∉ taken) :
    ((Body.atAnyDepth ts .whole).hit? (Path.relativeText segments).toList).isSome ↔
      ∃ s ∈ segments, Means ts s.toList := by
  rw [isSome_hit?_whole_iff (line_of_areOfOneLine nonempty plain)
    (head?_of_areOfOneLine nonempty plain) segment, pieces_of_areOfOneLine nonempty plain]
  simp only [List.mem_map, exists_exists_and_eq_and]

/-- A pattern of one segment for a directory meets a path that has a segment with its meaning before the
last one. -/
theorem hit?_inDirectory_segments {ts : List Token}
    (segment : ∀ taken, Means ts taken → '/' ∉ taken) :
    ((Body.atAnyDepth ts .inDirectory).hit? (Path.relativeText segments).toList).isSome ↔
      ∃ s ∈ segments.dropLast, Means ts s.toList := by
  rw [isSome_hit?_inDirectory_iff (line_of_areOfOneLine nonempty plain)
    (head?_of_areOfOneLine nonempty plain) segment, pieces_of_areOfOneLine nonempty plain,
    ← List.map_dropLast]
  simp only [List.mem_map, exists_exists_and_eq_and]

/-- What lies in directories of a name has that name among its segments, though not as the last one. -/
theorem hit?_directoryPattern {name : String} (h : '/' ∉ name.toList) :
    ((directoryPattern name).body.hit? (Path.relativeText segments).toList).isSome ↔
      name ∈ segments.dropLast := by
  rw [directoryPattern, hit?_inDirectory_segments nonempty plain fun _ => slash_notMem_of_means h]
  simp only [means_map_char, String.toList_inj, exists_eq_right]

/-- A name is met wherever it is a segment. -/
theorem hit?_namePattern {name : String} (h : '/' ∉ name.toList) :
    ((namePattern name).body.hit? (Path.relativeText segments).toList).isSome ↔ name ∈ segments := by
  rw [namePattern, hit?_whole_segments nonempty plain fun _ => slash_notMem_of_means h]
  simp only [means_map_char, String.toList_inj, exists_eq_right]

/-- An ending is met wherever a segment has it. -/
theorem hit?_endingPattern {ending : String} (h : '/' ∉ ending.toList) :
    ((endingPattern ending).body.hit? (Path.relativeText segments).toList).isSome ↔
      ∃ s ∈ segments, ending.toList <:+ s.toList := by
  have hsegment (taken : List Char) (htaken : Means (.anyRun :: ending.toList.map .char) taken) :
      '/' ∉ taken := by
    obtain ⟨run, hrun, rfl⟩ := means_anyRun_map_char.mp htaken
    exact fun hmem => (List.mem_append.mp hmem).elim hrun h
  rw [endingPattern, hit?_whole_segments nonempty plain hsegment]
  refine exists_congr fun s => and_congr_right fun hs => ?_
  rw [means_anyRun_map_char]
  constructor
  · rintro ⟨run, -, htext⟩
    exact ⟨run, htext.symm⟩
  · rintro ⟨run, htext⟩
    refine ⟨run, fun hmem => (plain s hs).2.1 ?_, htext.symm⟩
    rw [← htext]
    exact List.mem_append_left _ hmem

end

/-! ## What is ignored -/

/-- The names of the directories in which every project ignores what lies there. -/
def standardDirectories : List String :=
  [".git", "node_modules", "bower_components", "jspm_packages", "build", "dist", "coverage", ".jsreq"]

/-- Is a path with these segments ignored in every project that does not ask for it? It lies in one of
the directories, or one of its segments has a certain name or ending. -/
def IsStandardlyIgnored (segments : List String) : Prop :=
  (∃ s ∈ segments.dropLast, s ∈ standardDirectories) ∨
    ∃ s ∈ segments, s = ".DS_Store" ∨ ".min.js".toList <:+ s.toList ∨ ".map".toList <:+ s.toList

instance (segments : List String) : Decidable (IsStandardlyIgnored segments) :=
  inferInstanceAs (Decidable (_ ∨ _))

/-- One of the standard patterns meets a path when that of a directory, of the name or of an ending
does. -/
theorem exists_mem_standardRules_iff {met : Pattern → Prop} :
    (∃ p ∈ standardRules, met p) ↔ (∃ s ∈ standardDirectories, met (directoryPattern s)) ∨
      met (namePattern ".DS_Store") ∨ met (endingPattern ".min.js") ∨ met (endingPattern ".map") := by
  obtain ⟨names, hnames, hrules⟩ : ∃ names, standardDirectories = names ++ [".jsreq"] ∧
      standardRules = names.map directoryPattern ++ [endingPattern ".min.js", endingPattern ".map",
        namePattern ".DS_Store", directoryPattern ".jsreq"] := ⟨_, rfl, rfl⟩
  rw [hnames, hrules]
  simp only [List.mem_append, List.mem_map, List.mem_cons, List.not_mem_nil, or_false, or_and_right,
    exists_or, exists_eq_left, exists_exists_and_eq_and]
  constructor
  · rintro (h | h | h | h | h)
    exacts [.inl (.inl h), .inr (.inr (.inl h)), .inr (.inr (.inr h)), .inr (.inl h), .inl (.inr h)]
  · rintro ((h | h) | h | h | h)
    exacts [.inl h, .inr (.inr (.inr (.inr h))), .inr (.inr (.inr (.inl h))), .inr (.inl h),
      .inr (.inr (.inl h))]

/-- The standard patterns select what is ignored in every project. -/
theorem selects_standardRules_iff {segments : List String} (plain : AreOfOneLine segments) :
    standardRules.selects (Path.relativeText segments) = true ↔ IsStandardlyIgnored segments := by
  -- the root itself is written as a dot, which no rule selects
  by_cases hempty : segments = []
  · subst hempty
    have hdot : standardRules.selects (Path.relativeText []) = false := by decide +kernel
    simp [hdot, IsStandardlyIgnored]
  · have hdirectory : ∀ s ∈ standardDirectories,
        ((directoryPattern s).body.hit? (Path.relativeText segments).toList).isSome ↔
          s ∈ segments.dropLast := by
      have hslash : ∀ s ∈ standardDirectories, '/' ∉ s.toList := by decide
      exact fun s hs => hit?_directoryPattern hempty plain (hslash s hs)
    rw [Rules.selects_iff_exists_hit (by decide), exists_mem_standardRules_iff,
      hit?_namePattern hempty plain (by decide), hit?_endingPattern hempty plain (by decide),
      hit?_endingPattern hempty plain (by decide), IsStandardlyIgnored]
    -- directories on the left, names and endings of the last segment on the right
    refine or_congr ⟨?_, ?_⟩ ⟨?_, ?_⟩
    · rintro ⟨s, hs, hhit⟩
      exact ⟨s, (hdirectory s hs).mp hhit, hs⟩
    · rintro ⟨s, hmem, hs⟩
      exact ⟨s, hs, (hdirectory s hs).mpr hmem⟩
    · rintro (hs | ⟨s, hs, h⟩ | ⟨s, hs, h⟩)
      · exact ⟨_, hs, .inl rfl⟩
      · exact ⟨s, hs, .inr (.inl h)⟩
      · exact ⟨s, hs, .inr (.inr h)⟩
    · rintro ⟨s, hs, rfl | h | h⟩
      · exact .inl hs
      · exact .inr (.inl ⟨s, hs, h⟩)
      · exact .inr (.inr ⟨s, hs, h⟩)

/-- The segments of a path in one line are segments as such a path has them. -/
theorem areOfOneLine_segments {text : String} (line : '\n' ∉ text.toList) :
    AreOfOneLine (Path.ofString text).segments := by
  intro s hs
  obtain ⟨hne, hpiece⟩ := Path.mem_pieces_of_mem_segmentsOf hs
  obtain ⟨hslash, before, after, htext, -⟩ := Split.mem_pieces_iff.mp hpiece
  refine ⟨hne, hslash, fun hmem => line ?_⟩
  rw [htext]
  exact List.mem_append_left _ (List.mem_append_right _ hmem)

namespace Filter

variable {fs : FileSystem} {root : Path}

/-- Without patterns to exclude or to keep and without a file of patterns, a filter is loaded, and of the
relative paths in one line it ignores exactly those that lie in a standard directory or have a segment
with a standard name or ending. -/
theorem load_ignores_standard (absent : fs.hasEntry (root.below [fileName]) = false) :
    ∃ f, load fs root [] [] = .ok (f, []) ∧ ∀ text : String,
      (Path.ofString text).absolute = false → '\n' ∉ text.toList →
        (f.ignores (Path.ofString text) = true ↔ IsStandardlyIgnored (Path.ofString text).segments) := by
  refine ⟨{ root, included := [], excluded := [], standard := standardRules, own := none }, ?_, ?_⟩
  · unfold load
    rw [ownRules_of_not_hasEntry absent, rulesOf_standardPatterns]
    rfl
  · intro text relative line
    rw [← selects_standardRules_iff (areOfOneLine_segments line), ignores, relative,
      if_neg Bool.false_ne_true]
    simp [ignoresRelative, Rules.selects]

/-- In a small project, what lies in a standard directory is ignored, though not a file of its name nor
what lies in one of another case; what lies in a directory with a standard ending is ignored, too. -/
theorem load_ignores_standard_small :
    (smallProject none).hasEntry (smallRoot.below [fileName]) = false ∧
      ∃ f, load (smallProject none) smallRoot [] [] = .ok (f, []) ∧
        f.ignores (Path.ofString "lib/node_modules/a.js") = true ∧
        f.ignores (Path.ofString "lib/node_modules") = false ∧
        f.ignores (Path.ofString "lib/Node_Modules/a.js") = false ∧
        f.ignores (Path.ofString "lib.map/./a.js") = true := by
  have habsent : (smallProject none).hasEntry (smallRoot.below [fileName]) = false := by decide
  obtain ⟨f, hload, hf⟩ := load_ignores_standard habsent
  have hkept (text : String) (relative : (Path.ofString text).absolute = false)
      (line : '\n' ∉ text.toList) (h : ¬IsStandardlyIgnored (Path.ofString text).segments) :
      f.ignores (Path.ofString text) = false := by
    rwa [← Bool.not_eq_true, hf text relative line]
  exact ⟨habsent, f, hload, (hf _ (by decide) (by decide)).mpr (by decide +kernel),
    hkept _ (by decide) (by decide) (by decide +kernel),
    hkept _ (by decide) (by decide) (by decide +kernel),
    (hf _ (by decide) (by decide)).mpr (by decide +kernel)⟩

end Filter

end Ignore

end Specifiers
