import Specifiers.Command.Run
import Specifiers.Proofs.Ignore.Standard
import Specifiers.Proofs.Listing
import Specifiers.Proofs.Project
import Specifiers.Proofs.Result
import Specifiers.Proofs.Tree.Json

/-!
# Specifiers without repeats

Where specifiers are wanted without repeats, the text forms of both commands and the JSON form of
`extract` are those of the collapsed listings. The JSON form of `scan` has no regard to the wish: it puts
out the listings with their repeats, and so what the others put out exactly when there is no repeat
(`text_reportTree_collapsed_iff`).
-/

namespace Specifiers

/-- The report without repeats in its listings. -/
def Report.collapsed (r : Report) : Report :=
  { r with results := r.results.map fun f => (f.1, f.2.collapsed) }

/-! ## Sources of results -/

namespace Analysis

variable {host : Host} {encoding : String} {path path' : Path} {l : Listing}

/-- A file has the listing of its text, wherever it lies. -/
theorem result_eq_ok_iff : (analyze host encoding path).result = .ok l ↔
    encoding.toList.contains '\x00' = false ∧ ∃ bytes text, host.read path = .ok bytes ∧
      textOf host.codecs encoding bytes = .ok text ∧ (extract host.levels text).result = .ok l := by
  -- the text is read first, and the listing depends on the file through it alone
  have htext (text : String) : textAt host encoding path = .ok text ↔
      encoding.toList.contains '\x00' = false ∧ ∃ bytes, host.read path = .ok bytes ∧
        textOf host.codecs encoding bytes = .ok text := by
    unfold textAt
    cases encoding.toList.contains '\x00' with
    | true => simp
    | false => simp [bind_eq_ok_iff, mapError_eq_ok_iff]
  have hlisting (text : String) : (ofText host.levels path text).result = .ok l ↔
      (extract host.levels text).result = .ok l := by
    unfold ofText
    cases hresult : (extract host.levels text).result <;> simp [hresult]
  unfold analyze
  cases hread : textAt host encoding path with
  | error e =>
    constructor
    · intro h
      exact nomatch h
    · rintro ⟨hnul, bytes, text, hbytes, htextOf, -⟩
      exact nomatch hread.symm.trans ((htext text).mpr ⟨hnul, bytes, hbytes, htextOf⟩)
  | ok text =>
    obtain ⟨hnul, bytes, hbytes, htextOf⟩ := (htext text).mp hread
    refine (hlisting text).trans ⟨fun h => ⟨hnul, bytes, text, hbytes, htextOf, h⟩, ?_⟩
    rintro ⟨-, bytes', text', hbytes', htextOf', h⟩
    obtain rfl := Except.ok.inj (hbytes.symm.trans hbytes')
    obtain rfl := Except.ok.inj (htextOf.symm.trans htextOf')
    exact h

/-- Files with the same bytes have the same listing. -/
theorem result_of_read_eq {bytes : List UInt8} (h : (analyze host encoding path).result = .ok l)
    (read : host.read path = .ok bytes) (read' : host.read path' = .ok bytes) :
    (analyze host encoding path').result = .ok l := by
  obtain ⟨hnul, bytes', text, hbytes, htext, hlisting⟩ := result_eq_ok_iff.mp h
  obtain rfl := Except.ok.inj (read.symm.trans hbytes)
  exact result_eq_ok_iff.mpr ⟨hnul, bytes, text, read', htext, hlisting⟩

end Analysis

namespace Project

variable {analyze : List String → Analysis} {failFast : Bool} {found all : Findings}
  {sources : List (List String)} {f : String × Listing}

/-- A result that a loop has added is the listing of a source of that name. -/
theorem mem_results_of_collect (h : (collect analyze failFast found sources).2 = .ok all)
    (hmem : f ∈ all.results) : f ∈ found.results ∨
      ∃ source ∈ sources, Path.relativeText source = f.1 ∧ (analyze source).result = .ok f.2 := by
  -- along the sources, with the report so far free; a listing enters it at its own source only
  induction sources generalizing found with
  | nil =>
    obtain rfl := Except.ok.inj h
    exact .inl hmem
  | cons source sources ih =>
    have hlater (h : f ∈ found.results ∨
        ∃ s ∈ sources, Path.relativeText s = f.1 ∧ (analyze s).result = .ok f.2) :
        f ∈ found.results ∨
          ∃ s ∈ source :: sources, Path.relativeText s = f.1 ∧ (analyze s).result = .ok f.2 := by
      refine h.imp_right ?_
      rintro ⟨s, hs, hf⟩
      exact ⟨s, List.mem_cons_of_mem _ hs, hf⟩
    rw [collect] at h
    cases hresult : (analyze source).result with
    | error e =>
      simp only [hresult] at h
      split at h
      · have hrest := ih h
        exact hlater hrest
      · exact absurd h (by simp)
    | ok l =>
      simp only [hresult] at h
      rcases ih h with hfound | ⟨s, hs, hf⟩
      · rcases Table.mem_insert hfound with rfl | hfound
        · exact .inr ⟨source, List.mem_cons_self, rfl, hresult⟩
        · exact .inl hfound
      · exact .inr ⟨s, List.mem_cons_of_mem _ hs, hf⟩

/-- A result of a scan is the listing of a source of that name. -/
theorem exists_source_of_result {p : Project} {host : Host} {r : Report}
    (h : (p.scan host).result = .ok r) (hmem : f ∈ r.results) :
    ∃ source ∈ p.sources host, Path.relativeText source = f.1 ∧
      (p.analyze host source).result = .ok f.2 := by
  unfold scan at h
  split at h
  · cases hall : (collect (p.analyze host) p.settings.scan.failFast {} (p.sources host)).2 with
    | error e =>
      simp only [hall] at h
      exact absurd h (by simp)
    | ok all =>
      simp only [hall, Except.ok.injEq] at h
      subst h
      exact (mem_results_of_collect hall hmem).resolve_left List.not_mem_nil
  · exact absurd h (by simp)

end Project

namespace Command

open Json (textAt)

/-! ## Collapsed listings and reports -/

theorem listingTree_unique (l : Listing) : listingTree true l = listingTree false l.collapsed := rfl

theorem listingMessages_unique (label : String) (l : Listing) :
    listingMessages label true l = listingMessages label false l.collapsed := rfl

/-- The messages of a report are those of the collapsed one when repeats are left out. -/
theorem reportMessages_unique (r : Report) :
    reportMessages true r = reportMessages false r.collapsed := by
  simp only [reportMessages, Report.collapsed, List.flatMap_map, List.filter_map, List.length_map,
    listingMessages_unique]
  rfl

/-- A listing with repeats has a longer text than the collapsed one. -/
theorem length_listingTree_collapsed_lt {l : Listing} (level : Nat) (h : ¬l.specifiers.Nodup) :
    (textAt level (listingTree false l.collapsed)).length <
      (textAt level (listingTree false l)).length := by
  have hne : l.unique ≠ l.specifiers := fun heq => h (l.unique_eq_iff.mp heq)
  have hshorter : l.unique.length ≠ l.specifiers.length :=
    fun hlength => hne (l.unique_sublist.eq_of_length hlength)
  have hlist := Json.length_textAt_list_lt (level + 1) (l.unique_sublist.map Tree.text)
    (by simpa using hshorter)
  exact Json.length_textAt_object_field_lt [] [("isModule", .bool l.isModule)] "specifiers" hlist

/-- A report with a repeat in a listing has a longer text than the collapsed one. -/
theorem length_reportTree_collapsed_lt {r : Report} (h : ∃ f ∈ r.results, ¬f.2.specifiers.Nodup) :
    (Json.text (reportTree r.collapsed)).length < (Json.text (reportTree r)).length := by
  obtain ⟨f, hf, hrepeat⟩ := h
  -- no listing gets longer, and the one with a repeat gets shorter
  have hle : ∀ f ∈ r.results, (textAt 2 (listingTree false f.2.collapsed)).length ≤
      (textAt 2 (listingTree false f.2)).length := by
    intro f hf
    by_cases hnodup : f.2.specifiers.Nodup
    · have hsame : f.2.collapsed = f.2 := by
        rw [Listing.collapsed, f.2.unique_eq_iff.mpr hnodup]
      rw [hsame]
    · exact (length_listingTree_collapsed_lt 2 hnodup).le
  have hfiles := Json.length_textAt_object_lt 1 r.results (·.1) (fun f => listingTree false f.2.collapsed)
    (fun f => listingTree false f.2) hle ⟨f, hf, length_listingTree_collapsed_lt 2 hrepeat⟩
  have hcollapsed : r.collapsed.results.map (fun f => (f.1, listingTree false f.2)) =
      r.results.map fun f => (f.1, listingTree false f.2.collapsed) := by
    rw [Report.collapsed, List.map_map]
    rfl
  rw [← hcollapsed] at hfiles
  have hreport := Json.length_textAt_object_field_lt [("root", .text r.root.text)]
    [("failures", .object (r.failures.map fun f => (f.1, .text f.2)))] "files" hfiles
  rw [List.singleton_append, List.singleton_append] at hreport
  exact hreport

/-- A report has the text of the collapsed one exactly when there is no repeat in a listing. -/
theorem text_reportTree_collapsed_iff (r : Report) :
    Json.text (reportTree r.collapsed) = Json.text (reportTree r) ↔
      ∀ f ∈ r.results, f.2.specifiers.Nodup := by
  constructor
  · intro heq
    by_contra hrepeat
    have hlt := length_reportTree_collapsed_lt (r := r) (by simpa using hrepeat)
    exact absurd (congrArg String.length heq) hlt.ne
  · intro hnodup
    have hsame : ∀ f ∈ r.results, (f.1, f.2.collapsed) = f := fun f hf => by
      rw [Listing.collapsed, f.2.unique_eq_iff.mpr (hnodup f hf)]
    have hresults : r.results.map (fun f => (f.1, f.2.collapsed)) = r.results :=
      (List.map_congr_left hsame).trans (List.map_id _)
    rw [Report.collapsed, hresults]

/-! ## The commands -/

/-- Does a scan that has been requested come to a report, and of which project? -/
structure Reports (host : Host) (repo : String) (extensions : List String)
    (failFast : Option Bool) (p : Project) (r : Report) : Prop where
  directory : host.hasDirectory ((Path.ofString repo).resolve host.here) = true
  loaded : ∃ settings notices,
    Settings.load host.toFileSystem (Settings.projectFile ((Path.ofString repo).resolve host.here))
      (Settings.overrides (some extensions) failFast) = .ok settings ∧
    Project.load host ((Path.ofString repo).resolve host.here) settings = .ok (p, notices)
  report : (p.scan host).result = .ok r

variable {host : Host} {repo : String} {extensions : List String} {failFast : Option Bool}
  {p : Project} {r : Report}

/-- What is put out are the lines of the messages. -/
theorem output_printing (host : Host) (messages : List String) (exit : Nat) :
    (Outcome.printing host messages exit).output = (Console.lines host.display messages).1 := by
  unfold Outcome.printing
  rcases Console.lines host.display messages with ⟨output, _ | e⟩ <;> rfl

/-- Notices are not put out. -/
theorem output_noting (o : Outcome) (notices : List Notice) : (o.noting notices).output = o.output :=
  rfl

/-- What a scan puts out that comes to a report. -/
theorem Reports.output_scan (h : Reports host repo extensions failFast p r) (asJson unique : Bool) :
    (scan host repo extensions failFast asJson unique).output =
      if asJson then Json.text (reportTree r) ++ "\n"
      else "\n" ++ (Console.lines host.display (reportMessages unique r)).1 := by
  obtain ⟨settings, notices, hsettings, hproject⟩ := h.loaded
  have hscan : scan host repo extensions failFast asJson unique =
      (scanProject host p asJson unique).noting notices := by
    unfold scan
    rw [if_pos h.directory, hsettings]
    dsimp only
    rw [hproject]
  rw [hscan, scanProject, h.report]
  cases asJson with
  | true => rfl
  | false => exact congrArg ("\n" ++ ·) (output_printing host (reportMessages unique r) _)

/-- What `extract` puts out for a file with a listing. -/
theorem output_extract {file encoding : String} {l : Listing}
    (h : (analyze host encoding (Path.ofString file)).result = .ok l) (asJson unique : Bool) :
    (extract host file asJson unique encoding).output =
      if asJson then Json.text (listingTree unique l) ++ "\n"
      else (Console.lines host.display (listingMessages (Path.ofString file).text unique l)).1 := by
  rw [extract, h]
  cases asJson with
  | true => rfl
  | false => simp only [output_noting, Bool.false_eq_true, if_false, output_printing]

/-- What the commands put out when specifiers are wanted without repeats. As text, a scan puts out the
collapsed listings; `extract` does so for each of the files, as text and as JSON. But as JSON a scan puts
out the listings as they are, and so the collapsed ones only when there is no repeat in any. -/
theorem scan_unique (h : Reports host repo extensions failFast p r) :
    (∀ unique, (scan host repo extensions failFast true unique).output =
      Json.text (reportTree r) ++ "\n") ∧
    ((scan host repo extensions failFast true true).output =
        Json.text (reportTree r.collapsed) ++ "\n" ↔ ∀ f ∈ r.results, f.2.specifiers.Nodup) ∧
    (scan host repo extensions failFast false true).output =
      "\n" ++ (Console.lines host.display (reportMessages false r.collapsed)).1 ∧
    ∀ f ∈ r.results, ∃ source ∈ p.sources host, Path.relativeText source = f.1 ∧
      ∃ bytes, host.read (p.root.below source) = .ok bytes ∧
        ∀ file, host.read (Path.ofString file) = .ok bytes →
          (extract host file true true p.settings.scan.encoding).output =
            Json.text (listingTree false f.2.collapsed) ++ "\n" ∧
          (extract host file false true p.settings.scan.encoding).output =
            (Console.lines host.display (listingMessages (Path.ofString file).text false f.2.collapsed)).1 := by
  refine ⟨fun unique => ?_, ?_, ?_, fun f hf => ?_⟩
  · rw [h.output_scan, if_pos rfl]
  · rw [h.output_scan true true, ← text_reportTree_collapsed_iff r]
    exact (String.append_left_inj "\n").trans eq_comm
  · rw [← reportMessages_unique]
    exact h.output_scan false true
  · obtain ⟨source, hmem, hname, hlisting⟩ := Project.exists_source_of_result h.report hf
    -- the bytes the scan read for the source; any path that reads the same has the same listing
    obtain ⟨-, bytes, -, hbytes, -⟩ := Analysis.result_eq_ok_iff.mp hlisting
    refine ⟨source, hmem, hname, bytes, hbytes, fun file hfile => ?_⟩
    have hfileListing := Analysis.result_of_read_eq hlisting hbytes hfile
    constructor
    · rw [output_extract hfileListing, if_pos rfl, listingTree_unique]
    · rw [output_extract hfileListing, if_neg Bool.false_ne_true, listingMessages_unique]

/-- A root directory with a file that refers to another one twice. -/
def repeated : Host :=
  .ofTree (.directory [("a.js", .file (Utf8.encode "require('b');require('b')".toList))])

/-- The project at the root of `repeated`. -/
def repeatedProject : Project := ⟨⟨.root, []⟩, {}, ⟨⟨.root, []⟩, [], [], Ignore.standardRules, none⟩⟩

/-- The report of its scan. -/
def repeatedReport : Report := ⟨⟨[("a.js", ⟨["b", "b"], false⟩)], []⟩, ⟨.root, []⟩⟩

/-- The project with a repeat is scanned with this report. -/
theorem reports_repeated : Reports repeated "." [] none repeatedProject repeatedReport := by
  have hsources : repeatedProject.sources repeated = [["a.js"]] := by
    have hsorted : (repeated.filesBelow ⟨.root, []⟩).mergeSort Ignore.Filter.before = [["a.js"]] :=
      List.mergeSort_of_pairwise (by decide +kernel)
    unfold Project.sources Ignore.Filter.sources repeatedProject
    rw [hsorted]
    decide +kernel
  constructor
  case directory => rfl
  case loaded => exact ⟨{}, [], by decide +kernel, by rfl⟩
  case report =>
    unfold Project.scan
    rw [hsources]
    decide +kernel

/-- The repeat is left out as text and put out as a tree. -/
theorem scan_unique_repeated :
    Reports repeated "." [] none repeatedProject repeatedReport ∧
      (scan repeated "." [] none true true).output = Json.text (reportTree repeatedReport) ++ "\n" ∧
      (scan repeated "." [] none false true).output =
        "\na.js (script)\n  b\n\nScanned 1 file(s) (0 module, 1 script)\n" := by
  obtain ⟨hjson, -, htext, -⟩ := scan_unique reports_repeated
  refine ⟨reports_repeated, hjson true, ?_⟩
  rw [htext]
  decide +kernel

/-- As JSON, a scan of `repeated` lists both references also when it is asked for no repeats, where
`extract` lists one. -/
theorem scan_json_keeps_repeats :
    Reports repeated "." [] none repeatedProject repeatedReport ∧
      (scan repeated "." [] none true true).output ≠
        Json.text (reportTree repeatedReport.collapsed) ++ "\n" ∧
      (extract repeated "a.js" true true "utf-8").output =
        Json.text (listingTree false ⟨["b"], false⟩) ++ "\n" := by
  refine ⟨reports_repeated, ?_, by decide +kernel⟩
  rw [reports_repeated.output_scan true true, if_pos rfl]
  intro heq
  have htext := (String.append_left_inj "\n").mp heq
  have hnodup := (text_reportTree_collapsed_iff repeatedReport).mp htext.symm
  exact absurd (hnodup _ List.mem_cons_self) (by decide)

end Command

end Specifiers
