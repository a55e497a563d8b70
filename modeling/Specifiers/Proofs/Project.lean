import Specifiers.Project
import Specifiers.Proofs.Ignore.Filter
import Specifiers.Proofs.Table

/-!
# What a scan that keeps going finds

A scan fills two tables in one pass over the sources. After any number of sources the tables hold one
entry for each of them: its listing or the wording of its failure, whichever its analysis gives
(`collect_eq_ok_iff`). The loop appends to the tables and never writes over an entry, because no two
sources have the same name: a file is listed once, and the text of segments reads back as those
segments. The order of the sources is thereby the order of both tables.
-/

namespace Specifiers

/-! ## Analyses -/

namespace Analysis

/-- The listing, if there is one. -/
def listing? (a : Analysis) : Option Listing := a.result.toOption

/-- The wording of a failure that a scan can go on after. -/
def failure? (a : Analysis) : Option String :=
  match a.result with
  | .ok _ => none
  | .error e => if e.isLocal then some e.message else none

/-- Can a scan that keeps going go on after the analysis? -/
def Settled (a : Analysis) : Prop := ∀ e, a.result = .error e → e.isLocal = true

variable {a : Analysis}

/-- An analysis has the listing that is its result. -/
theorem listing?_eq_some_iff {l : Listing} : a.listing? = some l ↔ a.result = .ok l := by
  unfold listing?
  cases a.result <;> simp [Except.toOption]

/-- It has a failure when its result is an error that is local to the file. -/
theorem failure?_eq_some_iff {text : String} :
    a.failure? = some text ↔ ∃ e, a.result = .error e ∧ e.isLocal = true ∧ e.message = text := by
  unfold failure?
  cases a.result <;> simp

/-- An analysis with a listing has no failure. -/
theorem failure?_of_listing {l : Listing} (h : a.listing? = some l) : a.failure? = none := by
  rw [listing?_eq_some_iff] at h
  simp [failure?, h]

/-- A settled analysis has a listing or a failure. -/
theorem Settled.listing_or_failure (h : a.Settled) :
    (∃ l, a.listing? = some l) ∨ ∃ text, a.failure? = some text := by
  cases hresult : a.result with
  | ok l => exact .inl ⟨l, listing?_eq_some_iff.mpr hresult⟩
  | error e => exact .inr ⟨e.message, failure?_eq_some_iff.mpr ⟨e, hresult, h e hresult, rfl⟩⟩

end Analysis

/-- The analysis of a file depends on no other bytes than those of the file. -/
theorem analyze_eq_of_read_eq {host : Host} {other : FileSystem} {path : Path} (encoding : String)
    (h : other.read path = host.read path) :
    analyze { host with toFileSystem := other } encoding path = analyze host encoding path := by
  unfold analyze Analysis.textAt
  rw [h]

/-! ## Entries under the names of sources -/

/-- The table that holds, under the name of each source, its value if it has one. -/
def entriesOf {α : Type} (value? : List String → Option α) (sources : List (List String)) : Table α :=
  sources.filterMap fun source => (value? source).map (Path.relativeText source, ·)

section Entries

variable {α : Type} {value? : List String → Option α} {sources : List (List String)}

/-- The names of the entries are those of the sources with a value, in their order. -/
theorem keys_entriesOf :
    (entriesOf value? sources).keys =
      (sources.filter fun source => (value? source).isSome).map Path.relativeText := by
  unfold entriesOf Table.keys
  induction sources with
  | nil => rfl
  | cons source sources ih =>
    rw [List.filterMap_cons, List.filter_cons]
    cases value? source with
    | none => simpa using ih
    | some value => simpa using ih

/-- A name is one of them when it is that of a source with a value. -/
theorem mem_keys_entriesOf {key : String} :
    key ∈ (entriesOf value? sources).keys ↔
      ∃ source ∈ sources, (∃ value, value? source = some value) ∧ Path.relativeText source = key := by
  simp [keys_entriesOf, Option.isSome_iff_exists, and_assoc]

/-- A further source whose name is new gets the last entry. -/
theorem entriesOf_append_some {source : List String} {value : α} (h : value? source = some value)
    (new : Path.relativeText source ∉ sources.map Path.relativeText) :
    entriesOf value? (sources ++ [source]) =
      (entriesOf value? sources).insert (Path.relativeText source) value := by
  have hnew : Path.relativeText source ∉ (entriesOf value? sources).keys := by
    intro hmem
    obtain ⟨s, hs, -, hname⟩ := mem_keys_entriesOf.mp hmem
    exact new (List.mem_map.mpr ⟨s, hs, hname⟩)
  rw [Table.insert_of_not_mem _ hnew]
  simp [entriesOf, h]

/-- A further source without a value changes nothing. -/
theorem entriesOf_append_none {source : List String} (h : value? source = none) :
    entriesOf value? (sources ++ [source]) = entriesOf value? sources := by
  simp [entriesOf, h]

/-- Under the name of a source stands its own value. -/
theorem find?_entriesOf (names : (sources.map Path.relativeText).Nodup) {source : List String}
    (hmem : source ∈ sources) :
    (entriesOf value? sources).find? (Path.relativeText source) = value? source := by
  induction sources with
  | nil => simp at hmem
  | cons s sources ih =>
    rw [List.map_cons, List.nodup_cons] at names
    rcases List.mem_cons.mp hmem with rfl | hmem
    · -- Should the source have no value, none of the sources after it stands under its name.
      have hnone : (entriesOf value? sources).find? (Path.relativeText source) = none := by
        rw [Table.find?_eq_none_iff, mem_keys_entriesOf]
        rintro ⟨s, hs, -, hname⟩
        exact names.1 (List.mem_map.mpr ⟨s, hs, hname⟩)
      cases hvalue : value? source with
      | none => simpa [entriesOf, hvalue] using hnone
      | some value => simp [entriesOf, Table.find?, hvalue]
    · have hne : Path.relativeText source ≠ Path.relativeText s := fun h =>
        names.1 (h ▸ List.mem_map_of_mem hmem)
      have ih := ih names.2 hmem
      unfold entriesOf Table.find? at ih ⊢
      rw [List.filterMap_cons]
      cases value? s with
      | none => exact ih
      | some value =>
        rw [Option.map_some, List.lookup_cons, beq_eq_false_iff_ne.mpr hne]
        exact ih

end Entries

/-! ## The loop -/

namespace Project

section Loop

variable {analyze : List String → Analysis} {done rest : List (List String)} {all : Findings}

/-- What a scan that keeps going has found after some sources. -/
def found (analyze : List String → Analysis) (done : List (List String)) : Findings where
  results := entriesOf (fun source => (analyze source).listing?) done
  failures := entriesOf (fun source => (analyze source).failure?) done

/-- A source with a listing adds it to the results. -/
theorem found_append_listing {source : List String} {l : Listing}
    (h : (analyze source).result = .ok l)
    (new : Path.relativeText source ∉ done.map Path.relativeText) :
    found analyze (done ++ [source]) =
      { found analyze done with
        results := (found analyze done).results.insert (Path.relativeText source) l } := by
  have hlisting : (analyze source).listing? = some l := Analysis.listing?_eq_some_iff.mpr h
  have hfailure := Analysis.failure?_of_listing hlisting
  unfold found
  rw [entriesOf_append_some hlisting new, entriesOf_append_none hfailure]

/-- A source with a failure adds its wording to the failures. -/
theorem found_append_failure {source : List String} {e : AnalysisError}
    (h : (analyze source).result = .error e) (hlocal : e.isLocal = true)
    (new : Path.relativeText source ∉ done.map Path.relativeText) :
    found analyze (done ++ [source]) =
      { found analyze done with
        failures := (found analyze done).failures.insert (Path.relativeText source) e.message } := by
  have hfailure : (analyze source).failure? = some e.message :=
    Analysis.failure?_eq_some_iff.mpr ⟨e, h, hlocal, rfl⟩
  have hlisting : (analyze source).listing? = none := by simp [Analysis.listing?, h, Except.toOption]
  unfold found
  rw [entriesOf_append_none hlisting, entriesOf_append_some hfailure new]

/-- A loop that keeps going ends well exactly when every source is settled, and then it has found what
belongs to each of them. -/
theorem collect_eq_ok_iff (names : ((done ++ rest).map Path.relativeText).Nodup) :
    (collect analyze false (found analyze done) rest).2 = .ok all ↔
      (∀ source ∈ rest, (analyze source).Settled) ∧ found analyze (done ++ rest) = all := by
  -- The invariant is the form of the findings so far: `found` of the sources that are done.
  induction rest generalizing done with
  | nil => simp [collect]
  | cons source rest ih =>
    have new : Path.relativeText source ∉ done.map Path.relativeText := by
      rw [List.map_append, List.nodup_append] at names
      intro hmem
      exact names.2.2 _ hmem _ (List.mem_map_of_mem List.mem_cons_self) rfl
    have hsplit : done ++ source :: rest = (done ++ [source]) ++ rest := by simp
    rw [hsplit] at names ⊢
    rw [List.forall_mem_cons]
    cases hresult : (analyze source).result with
    | ok l =>
      have hsettled : (analyze source).Settled := by simp [Analysis.Settled, hresult]
      rw [collect]
      simp only [hresult, hsettled, true_and]
      rw [← found_append_listing hresult new]
      exact ih names
    | error e =>
      rw [collect]
      simp only [hresult]
      by_cases hlocal : e.isLocal = true
      · have hsettled : (analyze source).Settled := by simp [Analysis.Settled, hresult, hlocal]
        simp only [hlocal, Bool.not_false, Bool.and_self, if_true, hsettled, true_and]
        rw [← found_append_failure hresult hlocal new]
        exact ih names
      · -- The error ends the loop, and the source is not settled.
        simp [hlocal, Analysis.Settled, hresult]

/-- The findings are good when no source has a failure; each then has a listing, being settled. -/
theorem ok_found_iff {sources : List (List String)}
    (settled : ∀ source ∈ sources, (analyze source).Settled) :
    (found analyze sources).ok = true ↔ ∀ source ∈ sources, ∃ l, (analyze source).result = .ok l := by
  have hempty : (found analyze sources).failures = [] ↔
      ∀ source ∈ sources, (analyze source).failure? = none := by
    simp [found, entriesOf]
  rw [Findings.ok, List.isEmpty_iff]
  refine hempty.trans (forall₂_congr fun source hmem => ?_)
  simp only [← Analysis.listing?_eq_some_iff]
  constructor
  · intro hnone
    rcases (settled source hmem).listing_or_failure with hl | ⟨text, ht⟩
    · exact hl
    · exact absurd (hnone.symm.trans ht) (by simp)
  · rintro ⟨l, hl⟩
    exact Analysis.failure?_of_listing hl

end Loop

/-! ## The report -/

variable {p : Project} {host : Host} {report : Report}

/-- No two sources of a project have the same name. -/
theorem nodup_names (h : host.tree.WellFormed) : ((p.sources host).map Path.relativeText).Nodup := by
  have hsources : (p.sources host).Nodup := (Ignore.Filter.sources_pairwise h).imp fun hlt => ne_of_lt hlt
  refine List.Nodup.map_on (fun a ha b hb hname => ?_) hsources
  exact Path.eq_of_relativeText_eq (Ignore.Filter.isSegment_of_mem_sources h ha)
    (Ignore.Filter.isSegment_of_mem_sources h hb) hname

/-- A scan that keeps going has a report exactly when the root is a directory and every source is
settled; the report then holds what belongs to each source. -/
theorem scan_eq_ok_iff (tree : host.tree.WellFormed) (keepsGoing : p.settings.scan.failFast = false) :
    (p.scan host).result = .ok report ↔
      host.hasDirectory p.root = true ∧ (∀ source ∈ p.sources host, (p.analyze host source).Settled) ∧
        { found (p.analyze host) (p.sources host) with root := p.root } = report := by
  have hloop (all : Findings) : (collect (p.analyze host) false {} (p.sources host)).2 = .ok all ↔
      (∀ source ∈ p.sources host, (p.analyze host source).Settled) ∧
        found (p.analyze host) (p.sources host) = all :=
    @collect_eq_ok_iff (p.analyze host) [] (p.sources host) all (nodup_names tree)
  rw [scan, keepsGoing]
  by_cases hroot : host.hasDirectory p.root = true
  · rw [if_pos hroot]
    -- the loop never stops at a failure here, so it ends well exactly when every analysis is settled
    cases hall : (collect (p.analyze host) false {} (p.sources host)).2 with
    | error e =>
      have hnot : ¬∀ source ∈ p.sources host, (p.analyze host source).Settled := fun hsettled => by
        have h := (hloop _).mpr ⟨hsettled, rfl⟩
        exact absurd (hall.symm.trans h) (by simp)
      simp [hall, hnot]
    | ok f =>
      obtain ⟨hsettled, hfound⟩ := (hloop f).mp hall
      simp only [hall, hroot, Except.ok.injEq, true_and]
      rw [← hfound]
      exact (and_iff_right hsettled).symm
  · simp [hroot]

end Project

/-- Do names stand in strictly increasing order of the segments they spell? -/
def InPathOrder (names : List String) : Prop :=
  names.Pairwise fun a b => Path.segmentsOf a.toList < Path.segmentsOf b.toList

/-- Does a report account for every source of a project, and for each by itself? -/
structure Report.Accounts (p : Project) (host : Host) (report : Report) : Prop where
  /-- No source is among the results and among the failures. -/
  disjoint : report.results.keys.Disjoint report.failures.keys
  /-- The names in the report are those of the sources. -/
  names : ∀ name, name ∈ report.results.keys ∨ name ∈ report.failures.keys ↔
    ∃ source ∈ p.sources host, Path.relativeText source = name
  resultsOrder : InPathOrder report.results.keys
  failuresOrder : InPathOrder report.failures.keys
  /-- A result is the listing of its file, analysed by itself. -/
  result : ∀ source ∈ p.sources host, ∀ l,
    report.results.find? (Path.relativeText source) = some l ↔ (p.analyze host source).result = .ok l
  /-- A failure is the wording of the error of its file, analysed by itself. -/
  failure : ∀ source ∈ p.sources host, ∀ text,
    report.failures.find? (Path.relativeText source) = some text ↔
      ∃ e, (p.analyze host source).result = .error e ∧ e.isLocal = true ∧ e.message = text
  /-- The report is good when no source fails. -/
  ok : report.ok = true ↔ ∀ source ∈ p.sources host, ∃ l, (p.analyze host source).result = .ok l
  /-- Nothing but the file itself has a part in its entry. -/
  alone : ∀ source ∈ p.sources host, ∀ other : FileSystem,
    other.read (p.root.below source) = host.read (p.root.below source) →
      p.analyze { host with toFileSystem := other } source = p.analyze host source

namespace Project

variable {p : Project} {host : Host} {report : Report}

/-- The names of some of the sources, in their order, are in path order. -/
theorem inPathOrder_entriesOf {α : Type} (value? : List String → Option α)
    (h : host.tree.WellFormed) : InPathOrder (entriesOf value? (p.sources host)).keys := by
  unfold InPathOrder
  rw [keys_entriesOf, List.pairwise_map]
  refine ((Ignore.Filter.sources_pairwise h).filter _).imp_of_mem fun {a b} ha hb hlt => ?_
  rw [Path.segmentsOf_relativeText (Ignore.Filter.isSegment_of_mem_sources h (List.mem_of_mem_filter ha)),
    Path.segmentsOf_relativeText (Ignore.Filter.isSegment_of_mem_sources h (List.mem_of_mem_filter hb))]
  exact hlt

/-- A scan that keeps going accounts for every source: none is lost, found twice, written over or
changed by what other files hold. -/
theorem scan_accounts (tree : host.tree.WellFormed) (keepsGoing : p.settings.scan.failFast = false)
    (returned : (p.scan host).result = .ok report) : report.Accounts p host := by
  obtain ⟨-, hsettled, rfl⟩ := (scan_eq_ok_iff tree keepsGoing).mp returned
  have hnames := nodup_names (p := p) tree
  -- names are distinct, so a table made of the sources one after another answers for each source by itself
  have hresult : ∀ source ∈ p.sources host,
      (found (p.analyze host) (p.sources host)).results.find? (Path.relativeText source) =
        (p.analyze host source).listing? := fun _ hmem => find?_entriesOf hnames hmem
  have hfailure : ∀ source ∈ p.sources host,
      (found (p.analyze host) (p.sources host)).failures.find? (Path.relativeText source) =
        (p.analyze host source).failure? := fun _ hmem => find?_entriesOf hnames hmem
  constructor
  case disjoint =>
    intro name hr hf
    obtain ⟨source, hmem, ⟨l, hl⟩, rfl⟩ := mem_keys_entriesOf.mp hr
    have hnone := hfailure source hmem
    rw [Analysis.failure?_of_listing hl, Table.find?_eq_none_iff] at hnone
    exact hnone hf
  case names =>
    intro name
    constructor
    · rintro (hr | hf)
      · obtain ⟨source, hmem, -, hname⟩ := mem_keys_entriesOf.mp hr
        exact ⟨source, hmem, hname⟩
      · obtain ⟨source, hmem, -, hname⟩ := mem_keys_entriesOf.mp hf
        exact ⟨source, hmem, hname⟩
    · rintro ⟨source, hmem, hname⟩
      rcases (hsettled source hmem).listing_or_failure with hl | ht
      · exact .inl (mem_keys_entriesOf.mpr ⟨source, hmem, hl, hname⟩)
      · exact .inr (mem_keys_entriesOf.mpr ⟨source, hmem, ht, hname⟩)
  case resultsOrder => exact inPathOrder_entriesOf _ tree
  case failuresOrder => exact inPathOrder_entriesOf _ tree
  case result =>
    intro source hmem l
    rw [← Analysis.listing?_eq_some_iff, ← hresult source hmem]
  case failure =>
    intro source hmem text
    rw [← Analysis.failure?_eq_some_iff, ← hfailure source hmem]
  case ok => exact ok_found_iff hsettled
  -- the analysis reads one file and nothing else of the tree
  case alone =>
    intro source _ other hread
    exact analyze_eq_of_read_eq _ hread

/-- The loop over sources has regard to nothing but their analyses. -/
theorem collect_congr {analyze analyze' : List String → Analysis} {sources : List (List String)}
    (h : ∀ source ∈ sources, analyze' source = analyze source) (failFast : Bool) (found : Findings) :
    collect analyze' failFast found sources = collect analyze failFast found sources := by
  induction sources generalizing found with
  | nil => rfl
  | cons source sources ih =>
    obtain ⟨hsource, hsources⟩ := List.forall_mem_cons.mp h
    simp only [collect, hsource, ih hsources]

/-- In file systems with the same sources, which are read alike, a scan comes to the same. -/
theorem scan_congr {other : FileSystem} (root : other.hasDirectory p.root = host.hasDirectory p.root)
    (sources : p.sources { host with toFileSystem := other } = p.sources host)
    (read : ∀ source ∈ p.sources host, other.read (p.root.below source) = host.read (p.root.below source)) :
    p.scan { host with toFileSystem := other } = p.scan host := by
  have hanalyses : ∀ source ∈ p.sources host,
      p.analyze { host with toFileSystem := other } source = p.analyze host source :=
    fun source hmem => analyze_eq_of_read_eq _ (read source hmem)
  unfold scan
  rw [root, sources, collect_congr hanalyses]

/-- A root directory with a file that has a listing and one that fails. -/
def twoFiles : Host := .ofTree (.directory [("a.js", .file (Utf8.encode "require('b')".toList)),
  ("c.js", .file (Utf8.encode "(".toList))])

/-- The tree of the example has names and no repeats. -/
theorem wellFormed_twoFiles : twoFiles.tree.WellFormed := by
  refine .directory (by decide) (by decide) fun e he => ?_
  rcases List.mem_pair.mp he with rfl | rfl <;> exact .file _

/-- The project at the root of `twoFiles`, without patterns. -/
def atRoot : Project := ⟨⟨.root, []⟩, {}, ⟨⟨.root, []⟩, [], [], [], none⟩⟩

/-- The scan of `twoFiles` has a report with a result and a failure. -/
theorem scan_twoFiles : (atRoot.scan twoFiles).result = .ok
    ⟨⟨[("a.js", ⟨["b"], false⟩)], [("c.js", "/c.js: Line 1: Unexpected end of input")]⟩, ⟨.root, []⟩⟩ := by
  have hsources : atRoot.sources twoFiles = [["a.js"], ["c.js"]] := by
    have hsorted : (twoFiles.filesBelow ⟨.root, []⟩).mergeSort Ignore.Filter.before =
        [["a.js"], ["c.js"]] := List.mergeSort_of_pairwise (by decide +kernel)
    unfold sources Ignore.Filter.sources atRoot
    rw [hsorted]
    decide +kernel
  unfold scan
  rw [hsources]
  decide +kernel

/-- One of the two files is listed, and the other one has failed: it cannot be parsed. -/
theorem scan_accounts_twoFiles :
    let root : Path := ⟨.root, []⟩
    let p : Project := ⟨root, {}, ⟨root, [], [], [], none⟩⟩
    ∃ report, (p.scan twoFiles).result = .ok report ∧ report.results = [("a.js", ⟨["b"], false⟩)] ∧
      report.failures = [("c.js", "/c.js: Line 1: Unexpected end of input")] ∧
      report.Accounts p twoFiles :=
  ⟨_, scan_twoFiles, rfl, rfl, scan_accounts wellFormed_twoFiles rfl scan_twoFiles⟩

end Project

end Specifiers
