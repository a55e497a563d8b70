import Mathlib.Data.List.Basic
import Specifiers.Extraction

/-!
# The calls that a resolution makes

The parser is any function of the text, the grammar and a state of its own, so its answers may depend
on the calls before. `recorded` is the same parser with a record of its calls and answers, and `steps`
takes any number of steps of the machine.

`Reached` lists what a run can have come to, with the calls that led there; `reached_advance` says that
a step keeps to the list, and `reached_steps` that a run does. What the list says about the calls and
about the state is `Consistent`. `run` stops where the steps stop to change anything
(`run_eq_steps`), after two of them at most.
-/

namespace Specifiers

open Grammar (Mode)

namespace Resolution

variable {σ T E : Type}

/-- A call of a parser, with the answer that it got. -/
structure Call (T E : Type) where
  text : String
  mode : Mode
  answer : Outcome T E

/-- A parser that keeps a record of its calls, the first one first. -/
def recorded (parser : Parser σ T E) : Parser (List (Call T E) × σ) T E := fun text mode (calls, s) =>
  let (answer, s) := parser text mode s
  (answer, calls ++ [⟨text, mode, answer⟩], s)

/-- A number of steps of the machine; a fault ends them. -/
def steps (parser : Parser σ T E) : Nat → Resolution T → σ → Except E (Resolution T) × σ
  | 0, state, s => (.ok state, s)
  | n + 1, state, s =>
    match advance parser state s with
    | (.ok next, s) => steps parser n next s
    | (.error e, s) => (.error e, s)

/-- Is the run over: with a tree, with an error, or broken off by a fault of the parser? -/
def Ended : Except E (Resolution T) → Prop
  | .ok (.parsed _ _ _) | .ok (.failed _ _) | .error _ => True
  | .ok (.unresolved _) | .ok (.scriptRejected _ _) => False

/-! ## What a run can come to -/

/-- What a run on a text can have come to, and the calls that led there. -/
inductive Reached (text : String) : List (Call T E) → Except E (Resolution T) → Prop
  | start : Reached text [] (.ok (.unresolved text))
  | script (t : T) : Reached text [⟨text, .script, .tree t⟩] (.ok (.parsed t .script false))
  | scriptRejected (e : SyntaxError) :
      Reached text [⟨text, .script, .rejected e⟩] (.ok (.scriptRejected text e))
  | scriptTooDeep : Reached text [⟨text, .script, .tooDeep⟩] (.ok (.failed .nesting .tooDeep))
  | scriptBroken (e : E) : Reached text [⟨text, .script, .broken e⟩] (.error e)
  | module' (e : SyntaxError) (t : T) :
      Reached text [⟨text, .script, .rejected e⟩, ⟨text, .module', .tree t⟩]
        (.ok (.parsed t .module' true))
  | moduleRejected (e e' : SyntaxError) :
      Reached text [⟨text, .script, .rejected e⟩, ⟨text, .module', .rejected e'⟩]
        (.ok (.failed (.ofSyntax e') .rejected))
  | moduleTooDeep (e : SyntaxError) :
      Reached text [⟨text, .script, .rejected e⟩, ⟨text, .module', .tooDeep⟩]
        (.ok (.failed .nesting .tooDeep))
  | moduleBroken (e : SyntaxError) (e' : E) :
      Reached text [⟨text, .script, .rejected e⟩, ⟨text, .module', .broken e'⟩] (.error e')

/-- A step from a state that a run has come to. -/
theorem reached_advance (parser : Parser σ T E) {text : String} {calls : List (Call T E)}
    {state : Resolution T} (s : σ) (h : Reached text calls (.ok state)) :
    Reached text (advance (recorded parser) state (calls, s)).2.1
      (advance (recorded parser) state (calls, s)).1 := by
  cases h with
  | start =>
    cases hq : (parser text .script s).1 <;> simp only [advance, recorded, hq] <;> constructor
  | scriptRejected e =>
    cases hq : (parser text .module' s).1 <;> simp only [advance, recorded, hq] <;> constructor
  | script t => exact .script t
  | scriptTooDeep => exact .scriptTooDeep
  | module' e t => exact .module' e t
  | moduleRejected e e' => exact .moduleRejected e e'
  | moduleTooDeep e => exact .moduleTooDeep e

/-- Any number of steps from a state that a run has come to. -/
theorem reached_steps (parser : Parser σ T E) {text : String} (n : Nat) {calls : List (Call T E)}
    {state : Resolution T} (s : σ) (h : Reached text calls (.ok state)) :
    Reached text (steps (recorded parser) n state (calls, s)).2.1
      (steps (recorded parser) n state (calls, s)).1 := by
  induction n generalizing calls state s with
  | zero => exact h
  | succ n ih =>
    -- The steps take the first one apart, so the hypothesis is about where it leads.
    have hstep := reached_advance parser s h
    rw [steps]
    split
    · next next s' hnext =>
      rw [hnext] at hstep
      exact ih s'.2 hstep
    · next e s' hnext =>
      rw [hnext] at hstep
      exact hstep

/-! ## What the calls say about the state -/

/-- What the calls of a run on a text say about where the run stands. -/
structure Consistent (text : String) (calls : List (Call T E)) (outcome : Except E (Resolution T)) :
    Prop where
  /-- Each grammar is tried once at most, the script grammar first. -/
  modes_prefix : calls.map Call.mode <+: [.script, .module']
  text_eq : ∀ call ∈ calls, call.text = text
  /-- The module grammar is tried only on a text that the script grammar has rejected. -/
  script_rejected : ∀ call ∈ calls, call.mode = .module' →
    ∃ e, calls.head? = some ⟨text, .script, .rejected e⟩
  unresolved_iff : ∀ text', outcome = .ok (.unresolved text') ↔ text' = text ∧ calls = []
  scriptRejected_iff : ∀ text' e, outcome = .ok (.scriptRejected text' e) ↔
    text' = text ∧ calls.getLast? = some ⟨text, .script, .rejected e⟩
  parsed_iff : ∀ t mode forced, outcome = .ok (.parsed t mode forced) ↔
    calls.getLast? = some ⟨text, mode, .tree t⟩ ∧ (forced = true ↔ mode = .module')
  /-- An error is that of the module grammar, or says that the text nests too deeply. -/
  failed_iff : ∀ e cause, outcome = .ok (.failed e cause) ↔
    (cause = .rejected ∧ e.path = none ∧
      calls.getLast? = some ⟨text, .module', .rejected ⟨e.message, e.line, e.column, e.description⟩⟩) ∨
    (cause = .tooDeep ∧ (∃ mode, calls.getLast? = some ⟨text, mode, .tooDeep⟩) ∧
      e = ⟨"Source is nested too deeply to parse", none, none, "maximum recursion depth exceeded",
        none⟩)
  error_iff : ∀ fault, outcome = .error fault ↔ ∃ mode, calls.getLast? = some ⟨text, mode, .broken fault⟩

/-- A run has failed with the error of the module grammar, or because the text nests too deeply. -/
theorem Reached.failed_iff {text : String} {calls : List (Call T E)}
    {outcome : Except E (Resolution T)} (h : Reached text calls outcome) (e : ParseError)
    (cause : Cause) : outcome = .ok (.failed e cause) ↔
    (cause = .rejected ∧ e.path = none ∧
      calls.getLast? = some ⟨text, .module', .rejected ⟨e.message, e.line, e.column, e.description⟩⟩) ∨
    (cause = .tooDeep ∧ (∃ mode, calls.getLast? = some ⟨text, mode, .tooDeep⟩) ∧
      e = ⟨"Source is nested too deeply to parse", none, none, "maximum recursion depth exceeded",
        none⟩) := by
  constructor
  · rintro rfl
    cases h with
    | scriptTooDeep => exact .inr ⟨rfl, ⟨.script, rfl⟩, rfl⟩
    | moduleRejected s s' => exact .inl ⟨rfl, rfl, rfl⟩
    | moduleTooDeep s => exact .inr ⟨rfl, ⟨.module', rfl⟩, rfl⟩
  · rintro (⟨rfl, hpath, hlast⟩ | ⟨rfl, ⟨mode, hlast⟩, rfl⟩)
    · cases h <;> simp at hlast
      subst hlast
      rw [ParseError.ofSyntax, ← hpath]
    · cases h <;> simp at hlast <;> rfl

/-- Wherever a run has come to, the calls are consistent with it. -/
theorem Reached.consistent {text : String} {calls : List (Call T E)}
    {outcome : Except E (Resolution T)} (h : Reached text calls outcome) :
    Consistent text calls outcome where
  modes_prefix := by cases h <;> simp
  text_eq := by cases h <;> simp
  script_rejected := by cases h <;> simp
  unresolved_iff := by
    intro text'
    cases h <;> simp [@eq_comm _ text']
  scriptRejected_iff := by
    intro text' e
    cases h <;> simp [@eq_comm _ text']
  parsed_iff := by
    intro t mode forced
    cases h <;> cases mode <;> cases forced <;> simp
  failed_iff := h.failed_iff
  error_iff := by cases h <;> simp

/-! ## When a run is over -/

/-- A step from a final state leaves the state and the parser as they are. -/
theorem advance_of_pending_eq_zero (parser : Parser σ T E) {state : Resolution T} (s : σ)
    (h : state.pending = 0) : advance parser state s = (.ok state, s) := by
  cases state <;> simp [pending] at h <;> rfl

/-- So do any number of steps. -/
theorem steps_of_pending_eq_zero (parser : Parser σ T E) (n : Nat) {state : Resolution T} (s : σ)
    (h : state.pending = 0) : steps parser n state s = (.ok state, s) := by
  induction n with
  | zero => rfl
  | succ n ih =>
    rw [steps, advance_of_pending_eq_zero parser s h]
    exact ih

/-- A run that is over stays as it is under more steps. -/
theorem steps_add_of_ended (parser : Parser σ T E) (n k : Nat) {state : Resolution T} (s : σ)
    (h : Ended (steps parser n state s).1) :
    steps parser (n + k) state s = steps parser n state s := by
  induction n generalizing state s with
  | zero =>
    have hp : state.pending = 0 := by cases state <;> first | rfl | exact h.elim
    rw [Nat.zero_add, steps_of_pending_eq_zero parser k s hp]
    rfl
  | succ n ih =>
    rw [Nat.succ_add, steps, steps]
    rw [steps] at h
    split at h
    · next next s' hnext => exact ih s' h
    · rfl

/-- As many steps as calls may still follow take the machine to the end, which is that of `run`. -/
theorem run_eq_steps (parser : Parser σ T E) (n : Nat) {state : Resolution T} (s : σ)
    (h : state.pending ≤ n) :
    ((run parser state s).outcome, (run parser state s).parser) = steps parser n state s ∧
      Ended (steps parser n state s).1 := by
  induction n generalizing state s with
  | zero =>
    have hp : state.pending = 0 := Nat.le_zero.mp h
    rw [run, dif_pos hp, steps]
    cases state <;> simp [pending] at hp <;> exact ⟨rfl, trivial⟩
  | succ n ih =>
    by_cases hp : state.pending = 0
    · rw [run, dif_pos hp, steps_of_pending_eq_zero parser (n + 1) s hp]
      cases state <;> simp [pending] at hp <;> exact ⟨rfl, trivial⟩
    · -- A step leaves fewer calls that may still follow, or a fault ends the run.
      rw [run, dif_neg hp]
      split
      · next next s' hnext =>
        have hlt := pending_advance_lt hnext hp
        rw [show steps parser (n + 1) state s = steps parser n next s' by rw [steps, hnext]]
        exact ih s' (by omega)
      · next e s' hnext =>
        rw [show steps parser (n + 1) state s = (.error e, s') by rw [steps, hnext]]
        exact ⟨rfl, trivial⟩

/-- A record of the calls changes nothing else. -/
theorem advance_recorded (parser : Parser σ T E) (state : Resolution T) (calls : List (Call T E))
    (s : σ) : advance parser state s = ((advance (recorded parser) state (calls, s)).1,
      (advance (recorded parser) state (calls, s)).2.2) := by
  cases state <;> rfl

theorem steps_recorded (parser : Parser σ T E) (n : Nat) (state : Resolution T)
    (calls : List (Call T E)) (s : σ) :
    steps parser n state s = ((steps (recorded parser) n state (calls, s)).1,
      (steps (recorded parser) n state (calls, s)).2.2) := by
  induction n generalizing state calls s with
  | zero => rfl
  | succ n ih =>
    rw [steps, steps, advance_recorded parser state calls s]
    cases hnext : advance (recorded parser) state (calls, s) with
    | mk outcome s' =>
      cases outcome with
      | ok next => exact ih next s'.1 s'.2
      | error e => rfl

/-- A resolution is two steps of the machine. -/
theorem resolve_eq_steps (parser : Parser σ T E) (text : String) (s : σ) :
    ((resolve parser text s).outcome, (resolve parser text s).parser) =
        steps parser 2 (.unresolved (stripHashbang text)) s ∧
      Ended (steps parser 2 (.unresolved (stripHashbang text)) s).1 :=
  run_eq_steps parser 2 s (Nat.le_refl 2)

/-- The listing of a text is that of the tree that its resolution ends with, or the error. -/
theorem extractWith_result (parser : Parser σ Tree E) (text : String) (s : σ) :
    (extractWith parser text s).result =
      match (steps parser 2 (.unresolved (stripHashbang text)) s).1 with
      | .ok state => state.listing
      | .error e => .error (.broken e) := by
  rw [← (resolve_eq_steps parser text s).1]
  rfl

/-! ## Every run -/

/-- The resolution of a text under any parser, whatever its answers depend on. After any number of
steps the calls are consistent with where the run stands, and a run that is over stays as it is, without
another call. Two steps end it; the resolution of the text ends the same way after the same calls, and
so does its listing: that of the tree with the flag that goes with it, or the error. -/
theorem steps_consistent (parser : Parser σ Tree E) (text : String) (s : σ) :
    let start : Resolution Tree := .unresolved (stripHashbang text)
    let calls (n : Nat) := (steps (recorded parser) n start ([], s)).2.1
    (∀ n, Consistent (stripHashbang text) (calls n) (steps parser n start s).1 ∧
      (Ended (steps parser n start s).1 →
        ∀ k, calls (n + k) = calls n ∧ steps parser (n + k) start s = steps parser n start s)) ∧
    (∀ (state : Resolution Tree) (s : σ), state.pending = 0 → advance parser state s = (.ok state, s)) ∧
    Ended (steps parser 2 start s).1 ∧
    (resolve parser text s).outcome = (steps parser 2 start s).1 ∧
    (resolve (recorded parser) text ([], s)).parser.1 = calls 2 ∧
    (extractWith (recorded parser) text ([], s)).parser.1 = calls 2 ∧
    (∀ t mode forced, (steps parser 2 start s).1 = .ok (.parsed t mode forced) →
      (extractWith parser text s).result = (references forced true t).mapError .shapeless) ∧
    (∀ e cause, (steps parser 2 start s).1 = .ok (.failed e cause) →
      (extractWith parser text s).result = .error (.parse e)) ∧
    (∀ fault, (steps parser 2 start s).1 = .error fault →
      (extractWith parser text s).result = .error (.broken fault)) := by
  intro start calls
  -- recording the calls changes no state: every fact about the log is a fact about the run
  have hrecorded (n : Nat) : (steps parser n start s).1 = (steps (recorded parser) n start ([], s)).1 :=
    congrArg Prod.fst (steps_recorded parser n start [] s)
  have hcalls : (resolve (recorded parser) text ([], s)).parser.1 = calls 2 :=
    congrArg (·.2.1) (resolve_eq_steps (recorded parser) text ([], s)).1
  have hresult := extractWith_result parser text s
  refine ⟨fun n => ⟨?_, fun hended k => ⟨?_, ?_⟩⟩, fun state s h => advance_of_pending_eq_zero parser s h,
    (resolve_eq_steps parser text s).2, congrArg Prod.fst (resolve_eq_steps parser text s).1, hcalls,
    hcalls, ?_, ?_, ?_⟩
  · rw [hrecorded]
    exact (reached_steps parser n s .start).consistent
  · rw [hrecorded] at hended
    exact congrArg (·.2.1) (steps_add_of_ended (recorded parser) n k ([], s) hended)
  · exact steps_add_of_ended parser n k s hended
  · intro t mode forced h
    rw [hresult, h]
    rfl
  · intro e cause h
    rw [hresult, h]
    rfl
  · intro fault h
    rw [hresult, h]

end Resolution

end Specifiers
