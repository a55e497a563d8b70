import Specifiers.Proofs.Project
import Specifiers.Proofs.Result

/-!
# A scan that fails fast beside one that keeps going

A scan ends at the first source, in path order, whose analysis has an error that it does not go on after
(`EndsFirst`, `collect_eq_error_iff`): every error when it fails fast, and one that is not local to a
file otherwise. Up to there both kinds of scan find the same. So where the one that keeps going finds
no failure the other one has the same report, and elsewhere it ends with the first error.
-/

namespace Specifiers

/-- Does the analysis end a scan, and with which error? -/
def Analysis.Ends (failFast : Bool) (a : Analysis) (e : AnalysisError) : Prop :=
  a.result = .error e ∧ (failFast = false → e.isLocal = false)

/-- Is this the first of the sources, in path order, whose analysis ends a scan, and with which error? -/
structure EndsFirst (failFast : Bool) (analyze : List String → Analysis)
    (sources : List (List String)) (source : List String) (e : AnalysisError) : Prop where
  mem : source ∈ sources
  ends : (analyze source).Ends failFast e
  first : ∀ other ∈ sources, other < source → ∀ e', ¬(analyze other).Ends failFast e'

namespace Project

/-! ## The loop -/

section Loop

variable {failFast : Bool} {analyze : List String → Analysis} {source s : List String}
  {rest sources : List (List String)} {e e' : AnalysisError} {found : Findings}

/-- What ends a scan at the first source is what ends it first. -/
theorem endsFirst_cons_iff_of_ends (sorted : ∀ other ∈ rest, source < other)
    (h : (analyze source).Ends failFast e) :
    EndsFirst failFast analyze (source :: rest) s e' ↔ s = source ∧ e' = e := by
  constructor
  · intro hfirst
    rcases List.mem_cons.mp hfirst.mem with rfl | hmem
    · exact ⟨rfl, Except.error.inj (hfirst.ends.1.symm.trans h.1)⟩
    · exact absurd h (hfirst.first source List.mem_cons_self (sorted s hmem) e)
  · rintro ⟨rfl, rfl⟩
    refine ⟨List.mem_cons_self, h, fun other hother hlt => ?_⟩
    rcases List.mem_cons.mp hother with rfl | hother
    · exact absurd hlt (lt_irrefl other)
    · exact absurd hlt (lt_asymm (sorted other hother))

/-- A source that does not end a scan leaves this to those after it. -/
theorem endsFirst_cons_iff_of_not_ends (sorted : ∀ other ∈ rest, source < other)
    (h : ∀ e, ¬(analyze source).Ends failFast e) :
    EndsFirst failFast analyze (source :: rest) s e' ↔ EndsFirst failFast analyze rest s e' := by
  constructor
  · rintro ⟨hmem, hends, hfirst⟩
    rcases List.mem_cons.mp hmem with rfl | hmem
    · exact absurd hends (h e')
    · exact ⟨hmem, hends, fun other hother => hfirst other (List.mem_cons_of_mem _ hother)⟩
  · rintro ⟨hmem, hends, hfirst⟩
    refine ⟨List.mem_cons_of_mem _ hmem, hends, fun other hother hlt => ?_⟩
    rcases List.mem_cons.mp hother with rfl | hother
    · exact h
    · exact hfirst other hother hlt

/-- Where some analysis ends a scan, there is a first one. -/
theorem exists_endsFirst (sorted : sources.Pairwise (· < ·))
    (h : ∃ source ∈ sources, ∃ e, (analyze source).Ends failFast e) :
    ∃ source e, EndsFirst failFast analyze sources source e := by
  induction sources with
  | nil => simp at h
  | cons source rest ih =>
    rw [List.pairwise_cons] at sorted
    by_cases hends : ∃ e, (analyze source).Ends failFast e
    · obtain ⟨e, hends⟩ := hends
      exact ⟨source, e, (endsFirst_cons_iff_of_ends sorted.1 hends).mpr ⟨rfl, rfl⟩⟩
    · have hrest : ∃ s ∈ rest, ∃ e, (analyze s).Ends failFast e := by
        obtain ⟨s, hs, hsends⟩ := h
        rcases List.mem_cons.mp hs with rfl | hs
        · exact absurd hsends hends
        · exact ⟨s, hs, hsends⟩
      obtain ⟨s, e, hs⟩ := ih sorted.2 hrest
      exact ⟨s, e, (endsFirst_cons_iff_of_not_ends sorted.1 (not_exists.mp hends)).mpr hs⟩

/-- An analysis that ends the scan ends the loop with its error. -/
theorem collect_cons_of_ends (h : (analyze source).Ends failFast e) :
    (collect analyze failFast found (source :: rest)).2 = .error e := by
  obtain ⟨hresult, hlocal⟩ := h
  have hstop : (e.isLocal && !failFast) = false := by
    cases failFast with
    | true => exact Bool.and_false _
    | false => simp [hlocal rfl]
  rw [collect]
  simp only [hresult, hstop]
  rfl

/-- After another one the loop goes on, with something found. -/
theorem exists_collect_cons (h : ∀ e, ¬(analyze source).Ends failFast e) :
    ∃ found', (collect analyze failFast found (source :: rest)).2 =
      (collect analyze failFast found' rest).2 := by
  rw [collect]
  cases hresult : (analyze source).result with
  | ok l => exact ⟨_, rfl⟩
  | error e =>
    have hgo : (e.isLocal && !failFast) = true := by
      have hnot := h e
      simp only [Analysis.Ends, hresult, true_and] at hnot
      cases failFast <;> simp_all
    simp only [hgo, if_true]
    exact ⟨_, rfl⟩

/-- The loop ends with the error of the first analysis that ends it. -/
theorem collect_eq_error_iff (sorted : sources.Pairwise (· < ·)) :
    (collect analyze failFast found sources).2 = .error e ↔
      ∃ source, EndsFirst failFast analyze sources source e := by
  induction sources generalizing found with
  | nil =>
    simp only [collect, reduceCtorEq, false_iff, not_exists]
    exact fun source h => absurd h.mem (by simp)
  | cons source rest ih =>
    rw [List.pairwise_cons] at sorted
    by_cases hends : ∃ e, (analyze source).Ends failFast e
    · obtain ⟨e₀, hends⟩ := hends
      rw [collect_cons_of_ends hends]
      simp [endsFirst_cons_iff_of_ends sorted.1 hends, eq_comm]
    · rw [not_exists] at hends
      obtain ⟨found', hgo⟩ : ∃ found', (collect analyze failFast found (source :: rest)).2 =
          (collect analyze failFast found' rest).2 := exists_collect_cons hends
      rw [hgo, ih sorted.2]
      simp only [endsFirst_cons_iff_of_not_ends sorted.1 hends]

/-- Where every source has a listing, the loop is the same for both kinds of scan. -/
theorem collect_of_listings (h : ∀ source ∈ sources, ∃ l, (analyze source).result = .ok l) :
    collect analyze true found sources = collect analyze false found sources := by
  induction sources generalizing found with
  | nil => rfl
  | cons source rest ih =>
    obtain ⟨⟨l, hl⟩, hrest⟩ := List.forall_mem_cons.mp h
    rw [collect, collect]
    simp only [hl, ih hrest]

end Loop

/-! ## The scan -/

variable {p : Project} {host : Host}

/-- The sources come in their order, and none of them twice. -/
theorem sources_pairwise (tree : host.tree.WellFormed) : (p.sources host).Pairwise (· < ·) :=
  Ignore.Filter.sources_pairwise tree

/-- A scan without a root directory ends with that error. -/
theorem scan_of_not_directory (h : host.hasDirectory p.root = false) :
    (p.scan host).result = .error (.notDirectory p.root) := by
  rw [scan, h]
  rfl

/-- A scan of a root directory comes to what its loop comes to. -/
theorem scan_of_directory (h : host.hasDirectory p.root = true) :
    (p.scan host).result =
      ((collect (p.analyze host) p.settings.scan.failFast {} (p.sources host)).2.map
        fun found => { found with root := p.root }).mapError .analysis := by
  rw [scan, if_pos h]
  cases hall : (collect (p.analyze host) p.settings.scan.failFast {} (p.sources host)).2 <;>
    simp [hall, Except.map, Except.mapError]

/-- A scan ends with an analysis exactly when there is a root directory and a source that ends it. -/
theorem scan_eq_analysis_error_iff (tree : host.tree.WellFormed) {e : AnalysisError} :
    (p.scan host).result = .error (.analysis e) ↔ host.hasDirectory p.root = true ∧
      ∃ source, EndsFirst p.settings.scan.failFast (p.analyze host) (p.sources host) source e := by
  have hloop : (collect (p.analyze host) p.settings.scan.failFast {} (p.sources host)).2 = .error e ↔
      ∃ source, EndsFirst p.settings.scan.failFast (p.analyze host) (p.sources host) source e :=
    collect_eq_error_iff (sources_pairwise tree)
  rw [← hloop]
  cases h : host.hasDirectory p.root with
  | false => simp [scan_of_not_directory h]
  | true =>
    rw [scan_of_directory h]
    cases (collect (p.analyze host) p.settings.scan.failFast {} (p.sources host)).2 <;>
      simp [Except.map, Except.mapError]

/-! ## Both kinds of scan -/

/-- The project with a scan that fails fast or keeps going, and the same settings otherwise. -/
def failing (p : Project) (failFast : Bool) : Project :=
  { p with settings := { p.settings with scan := { p.settings.scan with failFast } } }

section Failing

variable {failFast : Bool} {report : Report} {e : AnalysisError}

/-- Whether it is to fail fast or not, a scan needs a directory. -/
theorem scan_failing_of_not_directory (h : host.hasDirectory p.root = false) :
    ((p.failing failFast).scan host).result = .error (.notDirectory p.root) :=
  scan_of_not_directory h

/-- In a directory the scan goes through the sources. -/
theorem scan_failing_of_directory (h : host.hasDirectory p.root = true) :
    ((p.failing failFast).scan host).result =
      ((collect (p.analyze host) failFast {} (p.sources host)).2.map
        fun found => { found with root := p.root }).mapError .analysis :=
  scan_of_directory h

/-- It ends with an error of an analysis when a source is the first to end it. -/
theorem scan_failing_eq_analysis_error_iff (tree : host.tree.WellFormed) :
    ((p.failing failFast).scan host).result = .error (.analysis e) ↔ host.hasDirectory p.root = true ∧
      ∃ source, EndsFirst failFast (p.analyze host) (p.sources host) source e :=
  scan_eq_analysis_error_iff tree

/-- A scan that keeps going has a report when every source is settled. -/
theorem scan_failing_eq_ok_iff (tree : host.tree.WellFormed) :
    ((p.failing false).scan host).result = .ok report ↔
      host.hasDirectory p.root = true ∧ (∀ source ∈ p.sources host, (p.analyze host source).Settled) ∧
        { found (p.analyze host) (p.sources host) with root := p.root } = report :=
  scan_eq_ok_iff tree rfl

end Failing

/-- What a scan that fails fast comes to beside one of the same project that keeps going. -/
structure FailsFast (p : Project) (host : Host) : Prop where
  /-- A good report is the same. -/
  good : ∀ report, ((p.failing false).scan host).result = .ok report → report.ok = true →
    ((p.failing true).scan host).result = .ok report
  /-- In place of a report with failures there is the error of the first source that has one, and its
  wording is the one that is reported. -/
  failed : ∀ report, ((p.failing false).scan host).result = .ok report → report.ok = false →
    ∃ source e, EndsFirst true (p.analyze host) (p.sources host) source e ∧
      ((p.failing true).scan host).result = .error (.analysis e) ∧
      report.failures.find? (Path.relativeText source) = some e.message
  /-- An error that is not local to a file stays, unless a source before it has one that is. -/
  broken : ∀ e, ((p.failing false).scan host).result = .error (.analysis e) →
    ∃ source ∈ p.sources host, (p.analyze host source).result = .error e ∧ e.isLocal = false ∧
      (((p.failing true).scan host).result = .error (.analysis e) ∨
        ∃ earlier e', EndsFirst true (p.analyze host) (p.sources host) earlier e' ∧ earlier < source ∧
          e'.isLocal = true ∧ ((p.failing true).scan host).result = .error (.analysis e'))
  /-- Without a root directory both end alike. -/
  noRoot : ∀ root, ((p.failing false).scan host).result = .error (.notDirectory root) →
    ((p.failing true).scan host).result = .error (.notDirectory root)

/-- A scan that fails fast ends with the first error, if any source has one. -/
theorem exists_scan_failing_eq_error (tree : host.tree.WellFormed)
    (root : host.hasDirectory p.root = true)
    (h : ∃ source ∈ p.sources host, ∃ e, (p.analyze host source).result = .error e) :
    ∃ source e, EndsFirst true (p.analyze host) (p.sources host) source e ∧
      ((p.failing true).scan host).result = .error (.analysis e) := by
  have hends : ∃ source ∈ p.sources host, ∃ e, (p.analyze host source).Ends true e := by
    obtain ⟨source, hmem, e, he⟩ := h
    exact ⟨source, hmem, e, he, by simp⟩
  obtain ⟨source, e, hfirst⟩ := exists_endsFirst (sources_pairwise tree) hends
  exact ⟨source, e, hfirst, (scan_failing_eq_analysis_error_iff tree).mpr ⟨root, source, hfirst⟩⟩

/-- Failing fast differs from keeping going in the ways that are told, and in no other. -/
theorem failsFast (tree : host.tree.WellFormed) : p.FailsFast host where
  good report hkeep hok := by
    obtain ⟨hroot, hsettled, rfl⟩ := (scan_failing_eq_ok_iff tree).mp hkeep
    have hlistings : ∀ source ∈ p.sources host, ∃ l, (p.analyze host source).result = .ok l :=
      (ok_found_iff hsettled).mp hok
    rw [← hkeep, scan_failing_of_directory hroot, scan_failing_of_directory hroot,
      collect_of_listings hlistings]
  failed report hkeep hok := by
    obtain ⟨hroot, hsettled, rfl⟩ := (scan_failing_eq_ok_iff tree).mp hkeep
    have hfailing : ∃ source ∈ p.sources host, ∃ e, (p.analyze host source).result = .error e := by
      by_contra hnone
      have hlistings : ∀ source ∈ p.sources host, ∃ l, (p.analyze host source).result = .ok l := by
        intro source hmem
        cases hresult : (p.analyze host source).result with
        | ok l => exact ⟨l, rfl⟩
        | error e => exact absurd ⟨source, hmem, e, hresult⟩ hnone
      exact absurd ((ok_found_iff hsettled).mpr hlistings) (by simpa [Findings.ok] using hok)
    obtain ⟨source, e, hfirst, hfast⟩ := exists_scan_failing_eq_error tree hroot hfailing
    refine ⟨source, e, hfirst, hfast, ?_⟩
    have hlocal : e.isLocal = true := hsettled source hfirst.mem e hfirst.ends.1
    exact (find?_entriesOf (nodup_names tree) hfirst.mem).trans
      (Analysis.failure?_eq_some_iff.mpr ⟨e, hfirst.ends.1, hlocal, rfl⟩)
  broken e hkeep := by
    obtain ⟨hroot, source, hmem, hends, hbefore⟩ := (scan_failing_eq_analysis_error_iff tree).mp hkeep
    refine ⟨source, hmem, hends.1, hends.2 rfl, ?_⟩
    obtain ⟨first, e', hfirst, hfast⟩ := exists_scan_failing_eq_error tree hroot ⟨source, hmem, e, hends.1⟩
    rcases lt_trichotomy first source with hlt | rfl | hlt
    · -- The scan that keeps going went on after the first error.
      refine .inr ⟨first, e', hfirst, hlt, ?_, hfast⟩
      by_contra hlocal
      exact hbefore first hfirst.mem hlt e' ⟨hfirst.ends.1, fun _ => by simpa using hlocal⟩
    · obtain rfl : e' = e := Except.error.inj (hfirst.ends.1.symm.trans hends.1)
      exact .inl hfast
    · exact absurd ⟨hends.1, by simp⟩ (hfirst.first source hmem hlt e)
  noRoot root hkeep := by
    cases hroot : host.hasDirectory p.root with
    | false => rw [← hkeep, scan_failing_of_not_directory hroot, scan_failing_of_not_directory hroot]
    | true =>
      rw [scan_failing_of_directory hroot] at hkeep
      obtain ⟨e, -, he⟩ := mapError_eq_error_iff.mp hkeep
      cases he

end Project

end Specifiers
