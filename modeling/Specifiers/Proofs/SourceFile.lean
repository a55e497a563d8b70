import Specifiers.Proofs.Text.Lines
import Specifiers.Proofs.Text.Utf8
import Specifiers.SourceFile

/-!
# Files that hold a text

A file with the bytes of a text has the listing of the text, whichever kind of line ends it is written
with. When the text has none, the analysis ends with the same error, which then tells the path if it is
one of parsing (`Tells`).
-/

namespace Specifiers

namespace Analysis

/-- Does an analysis of the file at a path come to what an extraction comes to: the same listing, or the
same error? An error of parsing keeps its wording and its place, and gets the path. -/
inductive Tells (path : Path) :
    Except (ExtractionError Fault) Listing → Except AnalysisError Listing → Prop
  | listing (l : Listing) : Tells path (.ok l) (.ok l)
  | parse {e e' : ParseError} (message : e'.message = e.message) (line : e'.line = e.line)
      (column : e'.column = e.column) (description : e'.description = e.description)
      (named : e'.path = some path.text) : Tells path (.error (.parse e)) (.error (.parse e'))
  | shapeless (s : Tree.Shapeless) : Tells path (.error (.shapeless s)) (.error (.fault (.shapeless s)))
  | broken (f : Fault) : Tells path (.error (.broken f)) (.error (.fault f))

/-- What an analysis comes to, but for what is worth noting. -/
theorem result_ofText (levels : Nat) (path : Path) (text : String) :
    (ofText levels path text).result = (extract levels text).result.mapError (.ofExtraction path) := by
  unfold ofText
  cases hresult : (extract levels text).result <;> simp only [hresult, Except.mapError]

/-- The analysis of a text comes to what the extraction from it comes to. -/
theorem tells_ofText (levels : Nat) (path : Path) (text : String) :
    Tells path (extract levels text).result (ofText levels path text).result := by
  rw [result_ofText]
  cases (extract levels text).result with
  | ok l => exact .listing l
  | error err =>
    cases err with
    | parse e => exact .parse rfl rfl rfl rfl rfl
    | shapeless s => exact .shapeless s
    | broken f => exact .broken f

variable {host : Host} {path : Path} {text : String}

/-- The bytes of a text, with any kind of line ends, are read as the text. -/
theorem textOf_written (codecs : Codec.Registry) (lineEnd : Lines.LineEnd)
    (noReturn : '\r' ∉ text.toList) :
    textOf codecs "utf-8" (Utf8.encode (Lines.written lineEnd text.toList)) = .ok text := by
  have hdecoded : Utf8.decode (Utf8.encode (Lines.written lineEnd text.toList)) =
      Lines.written lineEnd text.toList := Utf8.decode_encode _
  calc textOf codecs "utf-8" (Utf8.encode (Lines.written lineEnd text.toList))
      = .ok (String.ofList (Lines.unify (Utf8.decode
          (Utf8.encode (Lines.written lineEnd text.toList))))) := rfl
    _ = .ok text := by
      rw [hdecoded, Lines.unify_written lineEnd noReturn, String.ofList_toList]

/-- The analysis of a file that holds the bytes of a text, with line ends of any one kind, comes to what
the extraction from the text comes to. -/
theorem analyze_written (noReturn : '\r' ∉ text.toList) (lineEnd : Lines.LineEnd)
    (held : host.read path = .ok (Utf8.encode (Lines.written lineEnd text.toList))) :
    Tells path (extract host.levels text).result (analyze host "utf-8" path).result := by
  have htext : textAt host "utf-8" path = .ok text := by
    calc textAt host "utf-8" path
        = (do textOf host.codecs "utf-8" (← (host.read path).mapError .file)) := rfl
      _ = .ok text := by
        rw [held]
        exact textOf_written host.codecs lineEnd noReturn
  rw [analyze, htext]
  exact tells_ofText host.levels path text

/-- A directory with a file in which a specifier goes over two lines, with two characters for the line
end. -/
def twoLines : Host := .ofTree (.directory [("a.js", .file (Utf8.encode "require(`x\r\ny`)".toList))])

/-- The specifier has a line feed in it, as the text has. -/
theorem analyze_written_twoLines :
    '\r' ∉ "require(`x\ny`)".toList ∧
      twoLines.read ⟨.root, ["a.js"]⟩ =
        .ok (Utf8.encode (Lines.written .both "require(`x\ny`)".toList)) ∧
      (analyze twoLines "utf-8" ⟨.root, ["a.js"]⟩).result = .ok ⟨["x\ny"], false⟩ := by
  have noReturn : '\r' ∉ "require(`x\ny`)".toList := by decide
  have held : twoLines.read ⟨.root, ["a.js"]⟩ =
      .ok (Utf8.encode (Lines.written .both "require(`x\ny`)".toList)) := by decide +kernel
  have hlisting : (extract twoLines.levels "require(`x\ny`)").result = .ok ⟨["x\ny"], false⟩ := by
    decide +kernel
  refine ⟨noReturn, held, ?_⟩
  have htells := analyze_written noReturn .both held
  rw [hlisting] at htells
  generalize hresult : (analyze twoLines "utf-8" ⟨.root, ["a.js"]⟩).result = result at htells
  cases htells
  rfl

end Analysis

end Specifiers
