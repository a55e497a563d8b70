import Specifiers.Proofs.Project.FailFast
import Specifiers.Proofs.Text.Encoding

/-!
# When a scan that keeps going breaks off

A scan that keeps going records the errors that are local to a file and goes on. Three things break it
off all the same (`Escapes`): a name of an encoding that holds the character that ends names, bytes that
the codec of their encoding refuses, and a text whose extraction has a fault. A codec refuses bytes that
lack the mark it needs, any bytes if it decodes none, and whatever else it has a reason of its own for.
-/

namespace Specifiers

/-- What goes wrong with the file at a path that a scan does not go on after. -/
inductive Escapes (host : Host) (encoding : String) (path : Path) : AnalysisError → Prop
  /-- The name of the encoding holds the character that ends names. -/
  | nulInName (nul : '\x00' ∈ encoding.toList) : Escapes host encoding path .nulInName
  /-- The file can be read, but the codec of its encoding refuses its bytes. -/
  | decoding {bytes : List UInt8} {codec : Codec} {err : Encoding.DecodeError}
      (noNul : '\x00' ∉ encoding.toList) (read : host.read path = .ok bytes)
      (named : Codec.named host.codecs encoding = .ok codec) (refuses : codec.Refuses bytes err) :
      Escapes host encoding path (.decoding err)
  /-- The file has a text, but the extraction from it has a fault. -/
  | fault {text : String} {err : ExtractionError Fault} {f : Fault}
      (decoded : Analysis.textAt host encoding path = .ok text)
      (extracted : (extract host.levels text).result = .error err)
      (broken : AnalysisError.ofExtraction path err = .fault f) : Escapes host encoding path (.fault f)

section Analyses

variable {host : Host} {encoding : String} {path : Path} {e : AnalysisError}

/-- A file has no listing when it has no text, or no extraction from its text. -/
theorem analyze_eq_error_iff : (analyze host encoding path).result = .error e ↔
    Analysis.textAt host encoding path = .error e ∨ ∃ text, Analysis.textAt host encoding path = .ok text ∧
      ∃ err, (extract host.levels text).result = .error err ∧ AnalysisError.ofExtraction path err = e := by
  unfold analyze
  cases htext : Analysis.textAt host encoding path with
  | error e' => simp [Analysis.failed]
  | ok text =>
    unfold Analysis.ofText
    cases hresult : (extract host.levels text).result <;> simp [hresult]

/-- Bytes have no text, for a reason that is not local to a file, exactly when the codec refuses them. -/
theorem textOf_eq_error_iff {codecs : Codec.Registry} {bytes : List UInt8} (notLocal : e.isLocal = false) :
    Analysis.textOf codecs encoding bytes = .error e ↔
      ∃ codec, Codec.named codecs encoding = .ok codec ∧
        ∃ err, codec.Refuses bytes err ∧ e = .decoding err := by
  unfold Analysis.textOf
  simp only [bind_eq_error_iff, mapError_eq_error_iff, mapError_eq_ok_iff, Codec.decode_eq_error_iff]
  constructor
  · rintro (⟨e', -, rfl⟩ | ⟨codec, hname, ⟨err, hrefuses, rfl⟩ | ⟨cs, -, h⟩⟩)
    · simp [AnalysisError.isLocal] at notLocal
    · exact ⟨codec, hname, err, hrefuses, rfl⟩
    · cases h
  · rintro ⟨codec, hname, err, hrefuses, rfl⟩
    exact .inr ⟨codec, hname, .inl ⟨err, hrefuses, rfl⟩⟩

/-- A file has no text, for a reason that is not local to it, exactly when the name of the encoding
holds the character that ends names, or the codec refuses the bytes of the file. -/
theorem textAt_eq_error_iff (notLocal : e.isLocal = false) :
    Analysis.textAt host encoding path = .error e ↔
      ('\x00' ∈ encoding.toList ∧ e = .nulInName) ∨
        '\x00' ∉ encoding.toList ∧ ∃ bytes, host.read path = .ok bytes ∧
          ∃ codec, Codec.named host.codecs encoding = .ok codec ∧
            ∃ err, codec.Refuses bytes err ∧ e = .decoding err := by
  unfold Analysis.textAt
  by_cases hnul : '\x00' ∈ encoding.toList
  · simp [hnul, eq_comm]
  · rw [if_neg (by simpa using hnul)]
    simp only [bind_eq_error_iff, mapError_eq_error_iff, mapError_eq_ok_iff,
      textOf_eq_error_iff notLocal, hnul, false_and, false_or, not_false_eq_true, true_and]
    constructor
    · rintro (⟨e', -, rfl⟩ | h)
      · simp [AnalysisError.isLocal] at notLocal
      · exact h
    · exact .inr

/-- Exactly these errors are not local to a file. -/
theorem escapes_iff :
    Escapes host encoding path e ↔ (analyze host encoding path).result = .error e ∧ e.isLocal = false := by
  rw [analyze_eq_error_iff]
  constructor
  · rintro (⟨nul⟩ | ⟨noNul, read, named, refuses⟩ | ⟨decoded, extracted, broken⟩)
    · exact ⟨.inl ((textAt_eq_error_iff rfl).mpr (.inl ⟨nul, rfl⟩)), rfl⟩
    · exact ⟨.inl ((textAt_eq_error_iff rfl).mpr
        (.inr ⟨noNul, _, read, _, named, _, refuses, rfl⟩)), rfl⟩
    · exact ⟨.inr ⟨_, decoded, _, extracted, broken⟩, rfl⟩
  · rintro ⟨htext | ⟨text, decoded, err, extracted, rfl⟩, notLocal⟩
    · rcases (textAt_eq_error_iff notLocal).mp htext with ⟨nul, rfl⟩ |
        ⟨noNul, bytes, read, codec, named, err, refuses, rfl⟩
      · exact .nulInName nul
      · exact .decoding noNul read named refuses
    · cases err with
      | parse e => simp [AnalysisError.ofExtraction, AnalysisError.isLocal] at notLocal
      | shapeless s => exact .fault decoded extracted rfl
      | broken f => exact .fault decoded extracted rfl

end Analyses

namespace Project

variable {p : Project} {host : Host}

/-- What goes wrong with a source of a project that a scan does not go on after. -/
def EscapesAt (p : Project) (host : Host) (source : List String) (e : AnalysisError) : Prop :=
  Escapes host p.settings.scan.encoding (p.root.below source) e

/-- A scan that keeps going ends at a source with what escapes there. -/
theorem ends_false_iff {source : List String} {e : AnalysisError} :
    (p.analyze host source).Ends false e ↔ p.EscapesAt host source e := by
  rw [EscapesAt, escapes_iff]
  exact and_congr_right fun _ => ⟨fun h => h rfl, fun h _ => h⟩

/-- A source is settled when nothing escapes there. -/
theorem settled_iff {source : List String} :
    (p.analyze host source).Settled ↔ ∀ e, ¬p.EscapesAt host source e := by
  simp [← ends_false_iff, Analysis.Ends, Analysis.Settled]

/-- A root directory with a file that lacks the mark for units of two bytes. -/
def withoutMark : Host := .ofTree (.directory [("a.js", .file (Utf8.encode "require('b')".toList))])

/-- The tree of the example has a single name. -/
theorem wellFormed_withoutMark : withoutMark.tree.WellFormed := by
  refine .directory (by decide) (by decide) fun e he => ?_
  obtain rfl := List.mem_singleton.mp he
  exact .file _

/-- The rules that every project excludes files by. -/
def standardRules : Ignore.Rules := (Ignore.rulesOf Ignore.standardPatterns).toOption.getD []

/-- The project at a root whose files come in units of two bytes, after a mark. -/
def marked : Project where
  root := ⟨.root, []⟩
  settings := { scan := { encoding := "utf-16" } }
  filter := ⟨⟨.root, []⟩, [], [], standardRules, none⟩

/-- The project is the one that its settings give. -/
theorem load_withoutMark : load withoutMark marked.root marked.settings = .ok (marked, []) := by rfl

/-- Its only file is a source. -/
theorem sources_withoutMark : marked.sources withoutMark = [["a.js"]] := by
  have hsorted : (withoutMark.filesBelow ⟨.root, []⟩).mergeSort Ignore.Filter.before = [["a.js"]] :=
    List.mergeSort_of_pairwise (by decide +kernel)
  unfold sources Ignore.Filter.sources marked
  rw [hsorted]
  decide +kernel

end Project

end Specifiers
