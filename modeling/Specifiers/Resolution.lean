import Specifiers.Grammar.Mode
import Specifiers.Hashbang
import Specifiers.Notice

/-!
# Which grammar accepts a text

A text is tried as a script first, and as a module when that is rejected. Needing the module grammar
at all shows that the text is a module. The resolution is a machine of four states:

* `unresolved` goes to `parsed` when the text is a script, and to `scriptRejected` when it is none;
* `scriptRejected` goes to `parsed` when the text is a module, and to `failed` when it is none;
* a text that nests too deeply goes to `failed` at once;
* `parsed` and `failed` are final.

The parser is a parameter. It may keep a state of its own, so that its answers can depend on the calls
before, and it may break off: then the machine has no next state.
-/

namespace Specifiers

open Grammar (Mode)

/-- What a grammar says against a text, and where. -/
structure SyntaxError where
  message : String
  line : Option Int := none
  column : Option Int := none
  description : Option String := none
  deriving DecidableEq, Repr, Inhabited

/-- The answer of a parser to a text: its tree, that the grammar rejects it, that it nests too deeply,
or a fault of the parser itself. -/
inductive Outcome (T E : Type)
  | tree (t : T)
  | rejected (e : SyntaxError)
  | tooDeep
  | broken (e : E)

/-- A parser with a state of its own. -/
abbrev Parser (σ T E : Type) := String → Mode → σ → Outcome T E × σ

/-- Why a text could be read under neither grammar. -/
inductive Cause
  | rejected
  | tooDeep
  deriving DecidableEq, Repr, Inhabited

/-- The error for a text that cannot be read, with the path of its file once that is known. -/
structure ParseError where
  message : String
  line : Option Int := none
  column : Option Int := none
  description : Option String := none
  path : Option String := none
  deriving DecidableEq, Repr, Inhabited

namespace ParseError

/-- The text of the error, after the path when there is one. -/
def text (e : ParseError) : String :=
  match e.path with
  | some path => if path == "" then e.message else path ++ ": " ++ e.message
  | none => e.message

/-- The error for a text that the module grammar rejects. -/
def ofSyntax (e : SyntaxError) : ParseError :=
  { message := e.message, line := e.line, column := e.column, description := e.description }

/-- The error for a text that nests too deeply. -/
def nesting : ParseError :=
  { message := "Source is nested too deeply to parse"
    description := some "maximum recursion depth exceeded" }

end ParseError

/-- The states of the resolution of a text. -/
inductive Resolution (T : Type)
  | unresolved (text : String)
  | scriptRejected (text : String) (error : SyntaxError)
  | parsed (tree : T) (mode : Mode) (forcedModule : Bool)
  | failed (error : ParseError) (cause : Cause)
  deriving Inhabited

namespace Resolution

variable {σ T E : Type}

/-- How many calls of the parser may still follow. -/
def pending : Resolution T → Nat
  | unresolved _ => 2
  | scriptRejected _ _ => 1
  | parsed _ _ _ | failed _ _ => 0

/-- What is worth noting when the state is reached. -/
def notices : Resolution T → List Notice
  | scriptRejected _ e => [.scriptRejected e.message]
  | _ => []

/-- The state after the answer of the script grammar. -/
def afterScript (text : String) : Outcome T E → Except E (Resolution T)
  | .tree t => .ok (.parsed t .script false)
  | .rejected e => .ok (.scriptRejected text e)
  | .tooDeep => .ok (.failed .nesting .tooDeep)
  | .broken e => .error e

/-- The state after the answer of the module grammar. -/
def afterModule : Outcome T E → Except E (Resolution T)
  | .tree t => .ok (.parsed t .module' true)
  | .rejected e => .ok (.failed (.ofSyntax e) .rejected)
  | .tooDeep => .ok (.failed .nesting .tooDeep)
  | .broken e => .error e

/-- One step of the machine. Final states stay. -/
def advance (parser : Parser σ T E) (state : Resolution T) (s : σ) : Except E (Resolution T) × σ :=
  match state with
  | unresolved text =>
    let (answer, s) := parser text .script s
    (afterScript text answer, s)
  | scriptRejected text _ =>
    let (answer, s) := parser text .module' s
    (afterModule answer, s)
  | parsed _ _ _ | failed _ _ => (.ok state, s)

/-- A step from a state that is not final leaves fewer calls. -/
theorem pending_advance_lt {parser : Parser σ T E} {state next : Resolution T} {s s' : σ}
    (h : advance parser state s = (.ok next, s')) (hp : state.pending ≠ 0) :
    next.pending < state.pending := by
  cases state with
  | unresolved text =>
    simp only [advance, Prod.mk.injEq] at h
    cases hq : (parser text .script s).1 <;>
      simp [hq, afterScript] at h <;> obtain ⟨rfl, -⟩ := h <;> simp [pending]
  | scriptRejected text e =>
    simp only [advance, Prod.mk.injEq] at h
    cases hq : (parser text .module' s).1 <;>
      simp [hq, afterModule] at h <;> obtain ⟨rfl, -⟩ := h <;> simp [pending]
  | parsed => simp [pending] at hp
  | failed => simp [pending] at hp

/-- How a run ended, what was worth noting on the way, and the state of the parser. -/
structure Run (σ T E : Type) where
  notices : List Notice
  outcome : Except E (Resolution T)
  parser : σ

/-- Runs the machine to a final state. -/
def run (parser : Parser σ T E) (state : Resolution T) (s : σ) : Run σ T E :=
  if hp : state.pending = 0 then ⟨[], .ok state, s⟩
  else
    match h : advance parser state s with
    | (.ok next, s') =>
      have := pending_advance_lt h hp
      let rest := run parser next s'
      { rest with notices := next.notices ++ rest.notices }
    | (.error e, s') => ⟨[], .error e, s'⟩
termination_by state.pending

/-- Resolves a text without its hashbang. -/
def resolve (parser : Parser σ T E) (text : String) (s : σ) : Run σ T E :=
  run parser (.unresolved (stripHashbang text)) s

end Resolution

end Specifiers
