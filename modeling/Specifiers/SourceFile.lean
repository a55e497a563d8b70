import Specifiers.Extraction
import Specifiers.Host
import Specifiers.Text.Lines

/-!
# Source files

The listing of a file: its bytes are decoded, its line ends made line feeds, and the text extracted
from. A file can fail in four ways that concern it alone, which a scan can go on after: it cannot be
read, its encoding has no meaning, its text nests too deeply, or no grammar accepts it. What else can
go wrong breaks off whatever is going on, bytes that cannot be decoded among it.
-/

namespace Specifiers

/-- Why a file has no listing. -/
inductive AnalysisError
  | file (e : FileError)
  | encodingName (e : Encoding.NameError)
  /-- A name of an encoding holds the character that ends names. -/
  | nulInName
  | decoding (e : Encoding.DecodeError)
  | parse (e : ParseError)
  | fault (f : Fault)
  deriving DecidableEq, Repr

namespace AnalysisError

/-- The wording of the error. -/
def message : AnalysisError → String
  | file e => e.message
  | encodingName e => e.message
  | nulInName => "embedded null character"
  | decoding e => e.message
  | parse e => e.text
  | fault f => f.message

/-- Does the error concern the file alone, so that a scan can go on? -/
def isLocal : AnalysisError → Bool
  | file _ | encodingName _ | parse _ => true
  | nulInName | decoding _ | fault _ => false

/-- The error of an extraction from the file at a path. -/
def ofExtraction (path : Path) : ExtractionError Fault → AnalysisError
  | .parse e => .parse { e with path := some path.text }
  | .shapeless s => .fault (.shapeless s)
  | .broken f => .fault f

end AnalysisError

/-- The listing of a file, with what was worth noting on the way. -/
structure Analysis where
  notices : List Notice
  result : Except AnalysisError Listing

namespace Analysis

/-- The analysis that fails at once. -/
def failed (e : AnalysisError) : Analysis := ⟨[], .error e⟩

/-- The analysis of the text of the file at a path. -/
def ofText (levels : Nat) (path : Path) (text : String) : Analysis :=
  let e := extract levels text
  match e.result with
  | .ok l => ⟨e.notices ++ [.analyzed l.specifiers.length path.text l.isModule], .ok l⟩
  | .error err => ⟨e.notices, .error (.ofExtraction path err)⟩

/-- The text of the bytes of a file, with its line ends made line feeds. -/
def textOf (codecs : Codec.Registry) (encoding : String) (bytes : List UInt8) :
    Except AnalysisError String := do
  let codec ← (Codec.named codecs encoding).mapError .encodingName
  let cs ← (codec.decode bytes).mapError .decoding
  return String.ofList (Lines.unify cs)

/-- The text of the file at a path. The file is read before the encoding is looked up. -/
def textAt (host : Host) (encoding : String) (path : Path) : Except AnalysisError String := do
  if encoding.toList.contains '\x00' then
    .error .nulInName
  else
    let bytes ← (host.read path).mapError .file
    textOf host.codecs encoding bytes

end Analysis

/-- The listing of the file at a path, in an encoding given by its name. -/
def analyze (host : Host) (encoding : String) (path : Path) : Analysis :=
  match Analysis.textAt host encoding path with
  | .ok text => .ofText host.levels path text
  | .error e => .failed e

end Specifiers
