import Specifiers.Grammar.Program
import Specifiers.Reference
import Specifiers.Resolution

/-!
# From a text to its listing

The parser of the two grammars as the resolution needs it, and the listing of a text: its tree under
the grammar that accepts it, with the references in it. A text may nest so many levels deep as the parser can
go down.
-/

namespace Specifiers

/-- A fault that is not the text's: a template was to start with a piece that cannot start one, or a
tree has a value of an unexpected shape. -/
inductive Fault
  | templateHead
  | shapeless (s : Tree.Shapeless)
  deriving DecidableEq, Repr

/-- The wording of a fault. -/
def Fault.message : Fault → String
  | templateHead => "Template literal must start with a template head"
  | shapeless s => s.message

/-- What a rejection says, and where. -/
def SyntaxError.ofRejection (r : Grammar.Rejection) : SyntaxError :=
  { message := r.message, line := some r.line, column := some r.column }

/-- The answer of the grammar to a text. -/
def grammarOutcome (levels : Nat) (text : String) (mode : Grammar.Mode) : Outcome Tree Fault :=
  match Grammar.parseProgram levels mode text with
  | .ok tree => .tree tree
  | .error (.rejected r) => .rejected (.ofRejection r)
  | .error .tooDeep => .tooDeep
  | .error .templateHead => .broken .templateHead

/-- The parser of the two grammars, which keeps no state. -/
def grammarParser (levels : Nat) : Parser Unit Tree Fault := fun text mode s =>
  (grammarOutcome levels text mode, s)

/-- Why a text has no listing. -/
inductive ExtractionError (E : Type)
  | parse (e : ParseError)
  | shapeless (s : Tree.Shapeless)
  | broken (e : E)
  deriving DecidableEq, Repr

/-- The listing of the tree of a final state. -/
def Resolution.listing {E : Type} (state : Resolution Tree) : Except (ExtractionError E) Listing :=
  match state with
  | .parsed tree _ forcedModule => (references forcedModule true tree).mapError .shapeless
  | .failed e _ => .error (.parse e)
  | .unresolved _ | .scriptRejected _ _ => .ok {}

/-- A result with what was worth noting on the way, and the state of the parser. -/
structure Extraction (σ E : Type) where
  notices : List Notice
  result : Except (ExtractionError E) Listing
  parser : σ

/-- The listing of a text under a parser. -/
def extractWith {σ E : Type} (parser : Parser σ Tree E) (text : String) (s : σ) : Extraction σ E :=
  let run := Resolution.resolve parser text s
  { notices := run.notices
    parser := run.parser
    result := match run.outcome with
      | .ok state => state.listing
      | .error e => .error (.broken e) }

/-- The listing of a text. -/
def extract (levels : Nat) (text : String) : Extraction Unit Fault :=
  extractWith (grammarParser levels) text ()

end Specifiers
