import Specifiers.Grammar.Parse
import Specifiers.Proofs.Grammar.Lexer

/-!
# What a parser of a part reads

`Reads m n p here Q there` says that the parser `p`, from every state whose tokens are `here`, reads up
to a state whose tokens are `there`, with a result that `Q` holds of; `Rejects m n p here` that it
rejects the text. The first token of a state is the next one, and the others are those that the
characters after it spell. The states are those between the items of a program: the context is that of
the grammar (`m` says whether it is the module grammar), no brace is open, no initialiser waits for a
pattern, and the text has `n` characters.

There is one lemma for each operation of a parse, so that productions are followed without looking at
states.
-/

namespace Specifiers

namespace Grammar

/-- The tokens of a state: the next one and those after it. -/
def State.Ahead (s : State) : List Lexeme → Prop
  | [] => False
  | l :: ls => s.lookahead.lexeme = l ∧ Spells s.scanner.cursor.rest ls

/-- The state is one between the items of a program, with these tokens. -/
structure At (m : Bool) (n : Nat) (ls : List Lexeme) (s : State) : Prop where
  context : s.context = { isModule := m, strict := m }
  size : s.size = n
  cover : s.cover.initializer = none
  braces : s.scanner.braces = []
  ahead : s.Ahead ls

/-- The parser reads from the tokens `here` to the tokens `there`. -/
def Reads {α : Type} (m : Bool) (n : Nat) (p : Parse α) (here : List Lexeme) (Q : α → Prop)
    (there : List Lexeme) : Prop :=
  ∀ s, At m n here s → ∃ a s', p s = .ok (a, s') ∧ Q a ∧ At m n there s'

/-- The parser rejects a text whose tokens are `here`. -/
def Rejects {α : Type} (m : Bool) (n : Nat) (p : Parse α) (here : List Lexeme) : Prop :=
  ∀ s, At m n here s → ∃ r, p s = .error (.rejected r)

variable {α β : Type} {m : Bool} {n : Nat} {p : Parse α} {f : α → Parse β} {a : α}
  {here mid there ls : List Lexeme} {l l' : Lexeme} {Q : α → Prop} {R : β → Prop} {mark : String}

/-! ## One after the other -/

/-- A parser that succeeds hands its result and its state on. -/
theorem bind_eq_of_eq_ok {s s' : State} (h : p s = .ok (a, s')) : (p >>= f) s = f a s' := by
  simp only [Bind.bind, StateT.bind, h, Except.bind]

/-- A parser that only gives a result reads nothing. -/
theorem Reads.pure (h : Q a) : Reads m n (Pure.pure a) here Q here :=
  fun s hs => ⟨a, s, rfl, h, hs⟩

/-- Where one parser reads up to, the next one goes on, with any result that the first can have. -/
theorem Reads.bind (hp : Reads m n p here Q mid) (hf : ∀ a, Q a → Reads m n (f a) mid R there) :
    Reads m n (p >>= f) here R there := by
  intro s hs
  obtain ⟨a, s', hrun, hQ, hs'⟩ := hp s hs
  obtain ⟨b, s'', hrun', hR, hs''⟩ := hf a hQ s' hs'
  exact ⟨b, s'', (bind_eq_of_eq_ok hrun).trans hrun', hR, hs''⟩

/-- The same when the result of the first parser is known. -/
theorem Reads.bind_eq (hp : Reads m n p here (· = a) mid) (hf : Reads m n (f a) mid R there) :
    Reads m n (p >>= f) here R there :=
  hp.bind fun _ h => h ▸ hf

/-- A function of the result leaves what is read as it is. -/
theorem Reads.map {g : α → β} (hp : Reads m n p here Q there) (h : ∀ a, Q a → R (g a)) :
    Reads m n (g <$> p) here R there := by
  intro s hs
  obtain ⟨a, s', hrun, hQ, hs'⟩ := hp s hs
  refine ⟨g a, s', ?_, h a hQ, hs'⟩
  simp only [Functor.map, StateT.map, Bind.bind, Except.bind, hrun]
  rfl

/-- What is read stays the same when the result is dropped. -/
theorem Reads.discard (hp : Reads m n p here Q there) :
    Reads m n (Functor.discard p) here (· = ()) there :=
  hp.map fun _ _ => rfl

/-- What is rejected at first is rejected, whatever was to follow. -/
theorem Rejects.bind (hp : Rejects m n p here) : Rejects m n (p >>= f) here := by
  intro s hs
  obtain ⟨r, hrun⟩ := hp s hs
  exact ⟨r, by simp only [Bind.bind, StateT.bind, hrun, Except.bind]⟩

/-- A text is also rejected by what follows after a part that is read. -/
theorem Reads.bind_rejects (hp : Reads m n p here Q mid) (hf : ∀ a, Q a → Rejects m n (f a) mid) :
    Rejects m n (p >>= f) here := by
  intro s hs
  obtain ⟨a, s', hrun, hQ, hs'⟩ := hp s hs
  obtain ⟨r, hrun'⟩ := hf a hQ s' hs'
  exact ⟨r, (bind_eq_of_eq_ok hrun).trans hrun'⟩

/-- A branch is taken when its condition holds of the tokens that are known. -/
theorem Reads.if_true {c : Bool} {q : Parse α} (hc : c = true) (h : Reads m n p here Q there) :
    Reads m n (if c = true then p else q) here Q there := by
  rw [if_pos hc]
  exact h

/-- The other branch is taken when the condition fails. -/
theorem Reads.if_false {c : Bool} {q : Parse α} (hc : c = false) (h : Reads m n p here Q there) :
    Reads m n (if c = true then q else p) here Q there := by
  rw [hc, if_neg Bool.false_ne_true]
  exact h

/-! ## The state -/

theorem get_eq (s : State) : (get : Parse State) s = .ok (s, s) := rfl

/-- The state that is looked at is one with these tokens, and stays. -/
theorem reads_get : Reads m n get here (At m n here) here :=
  fun s hs => ⟨s, s, rfl, hs, hs⟩

/-- A change of the state reads from one list of tokens to another when it takes every state with the former
to one with the latter. -/
theorem reads_modify {g : State → State} (h : ∀ s, At m n here s → At m n there (g s)) :
    Reads m n (modify g) here (· = ()) there :=
  fun s hs => ⟨(), g s, rfl, rfl, h s hs⟩

/-- Between items the context is that of the grammar. -/
theorem reads_context : Reads m n context here (· = { isModule := m, strict := m }) here :=
  reads_get.bind fun _ hs => .pure hs.context

/-- What the last expression could still be is of no concern here, unless an initialiser waits. -/
theorem reads_setCover {g : Cover → Cover} (h : ∀ c, c.initializer = none → (g c).initializer = none) :
    Reads m n (setCover g) here (· = ()) here :=
  reads_modify fun _ hs => ⟨hs.context, hs.size, h _ hs.cover, hs.braces, hs.ahead⟩

theorem reads_settle : Reads m n settle here (· = ()) here :=
  reads_setCover fun _ h => h

theorem reads_settleMember : Reads m n settleMember here (· = ()) here :=
  reads_setCover fun _ h => h

/-- A complaint about a token rejects the text, whatever the tokens are. -/
theorem rejects_rejectToken (t : Token) (complaint : Complaint) :
    Rejects m n (rejectToken t complaint : Parse α) here :=
  fun _ _ => ⟨_, rfl⟩

/-! ## Tokens -/

/-- A steady token stays what it is in strict code. -/
theorem Token.reserve_eq {t : Token} (h : t.lexeme.isSteady = true) : t.reserve = t := by
  unfold Token.reserve
  split
  · rename_i name hname
    rw [hname, Lexeme.isSteady, Bool.not_eq_true'] at h
    rw [h, if_neg Bool.false_ne_true]
  · rfl

/-- The token after the next one is scanned. -/
theorem scan_eq {s : State} (hs : At m n (l :: l' :: ls) s) :
    ∃ start t after, scan s.scanner s = .ok ((start, t, after), s) ∧ t.lexeme = l' ∧
      t.reserve = t ∧ after.braces = [] ∧ Spells after.cursor.rest ls := by
  obtain ⟨start, t, after, hnext, ht, hsteady, hbraces, hrest⟩ :=
    hs.ahead.2.next s.context.isModule s.scanner.cursor.place
  have hscanner : s.scanner = ⟨⟨s.scanner.cursor.place, s.scanner.cursor.rest⟩, []⟩ := by
    rw [← hs.braces]
  refine ⟨start, t, after, ?_, ht, Token.reserve_eq (ht ▸ hsteady), hbraces, hrest⟩
  rw [← hscanner] at hnext
  refine (bind_eq_of_eq_ok (get_eq s)).trans ?_
  rw [hnext]
  rfl

/-- Taking a token leaves those after it; the next one is scanned from the characters that spell them. -/
theorem reads_take : Reads m n take (l :: l' :: ls) (·.lexeme = l) (l' :: ls) := by
  intro s hs
  obtain ⟨start, t, after, hscan, ht, hreserve, hbraces, hrest⟩ := scan_eq hs
  refine ⟨s.lookahead, { s with
    scanner := after, start, lookahead := t, lastEnd := s.scanner.cursor.place
    onNewLine := s.lookahead.line != t.line }, ?_, hs.ahead.1,
    hs.context, hs.size, hs.cover, hbraces, ht, hrest⟩
  refine (bind_eq_of_eq_ok (get_eq s)).trans ((bind_eq_of_eq_ok hscan).trans ?_)
  refine (bind_eq_of_eq_ok (get_eq s)).trans ?_
  -- strict or not, the token stays what it is
  simp only [hreserve, ite_self]
  rfl

/-- Looking one token further ahead takes nothing. -/
theorem reads_peek : Reads m n peek (l :: l' :: ls) (·.lexeme = l') (l :: l' :: ls) := by
  intro s hs
  obtain ⟨start, t, after, hscan, ht, -, hbraces, -⟩ := scan_eq hs
  refine ⟨t, { s with scanner := { s.scanner with braces := after.braces } }, ?_, ht,
    hs.context, hs.size, hs.cover, hbraces, hs.ahead⟩
  exact (bind_eq_of_eq_ok (get_eq s)).trans ((bind_eq_of_eq_ok hscan).trans rfl)

theorem reads_lookahead : Reads m n lookahead (l :: ls) (· = l) (l :: ls) :=
  reads_get.bind fun _ hs => .pure hs.ahead.1

/-- A question about the next token is answered by the lexeme. -/
theorem reads_ahead (q : Lexeme → Bool) : Reads m n (ahead q) (l :: ls) (· = q l) (l :: ls) :=
  reads_get.bind fun _ hs => .pure (congrArg q hs.ahead.1)

theorem reads_atMark : Reads m n (atMark mark) (l :: ls) (· = (l == .punctuator mark)) (l :: ls) :=
  reads_ahead _

/-- A mark that is expected and is there is taken. -/
theorem reads_expect :
    Reads m n (expect mark) (.punctuator mark :: l :: ls) (· = ()) (l :: ls) := by
  refine reads_take.bind fun t ht => ?_
  rw [ht, beq_self_eq_true, if_pos rfl]
  exact .pure rfl

/-- So is a keyword. -/
theorem reads_expectKeyword {word : String} :
    Reads m n (expectKeyword word) (.keyword word :: l :: ls) (· = ()) (l :: ls) := by
  refine reads_take.bind fun t ht => ?_
  rw [ht, beq_self_eq_true, if_pos rfl]
  exact .pure rfl

/-- A mark that can be there and is there is taken as well. -/
theorem reads_accept :
    Reads m n (accept mark) (.punctuator mark :: l :: ls) (· = true) (l :: ls) := by
  refine reads_atMark.bind_eq ?_
  rw [beq_self_eq_true, if_pos rfl]
  exact reads_take.discard.bind_eq (.pure rfl)

/-- Any other token than the mark is left. -/
theorem reads_accept_other (h : (l == .punctuator mark) = false) :
    Reads m n (accept mark) (l :: ls) (· = false) (l :: ls) := by
  refine reads_atMark.bind_eq ?_
  rw [h, if_neg Bool.false_ne_true]
  exact .pure rfl

/-- A statement that ends with a semicolon. -/
theorem reads_endStatement :
    Reads m n endStatement (.punctuator ";" :: l :: ls) (· = ()) (l :: ls) := by
  refine reads_accept.bind_eq ?_
  exact .pure rfl

/-! ## Repetition -/

section Repetition

variable {step : α → Parse (Option α)} {b : α} {k : Nat}

/-- A repetition ends at a step that has nothing to read. -/
theorem reads_iterate_none (h : Reads m n (step a) here (· = none) there) (ha : Q a) :
    Reads m n (iterate step (k + 1) a) here Q there :=
  h.bind_eq (.pure ha)

/-- It goes on with what a step has read. -/
theorem reads_iterate_some (h : Reads m n (step a) here (· = some b) mid)
    (hrest : Reads m n (iterate step k b) mid Q there) :
    Reads m n (iterate step (k + 1) a) here Q there :=
  h.bind_eq hrest

/-- What a step rejects, the repetition rejects. -/
theorem rejects_iterate (h : Rejects m n (step a) here) : Rejects m n (iterate step (k + 1) a) here :=
  h.bind

/-- What a later step rejects, it rejects as well. -/
theorem rejects_iterate_some (h : Reads m n (step a) here (· = some b) mid)
    (hrest : Rejects m n (iterate step k b) mid) : Rejects m n (iterate step (k + 1) a) here :=
  h.bind_rejects fun _ hb => hb ▸ hrest

/-- The number of characters bounds the steps. -/
theorem reads_repeated (h : Reads m n (iterate step (n + 2) a) here Q there) :
    Reads m n (repeated step a) here Q there :=
  reads_get.bind fun s hs => by rw [hs.size]; exact h

/-- A repetition rejects what its steps reject within the bound. -/
theorem rejects_repeated (h : Rejects m n (iterate step (n + 2) a) here) :
    Rejects m n (repeated step a) here :=
  reads_get.bind_rejects fun s hs => by rw [hs.size]; exact h

end Repetition

/-! ## Context and cover -/

/-- A part that is read by itself leaves what the expression before could still be. -/
theorem reads_isolate (h : Reads m n p here Q there) : Reads m n (isolate p) here Q there := by
  intro s hs
  -- The part starts with nothing that waits, and what waited before is put back after it.
  have hinner : At m n here { s with cover := {} } := ⟨hs.context, hs.size, rfl, hs.braces, hs.ahead⟩
  obtain ⟨a, s', hrun, hQ, hs'⟩ := h _ hinner
  refine ⟨a, { s' with cover := s.cover }, ?_, hQ, hs'.context, hs'.size, hs.cover, hs'.braces,
    hs'.ahead⟩
  have hset : setCover (fun _ => {}) s = .ok ((), { s with cover := {} }) := rfl
  refine (bind_eq_of_eq_ok (get_eq s)).trans ((bind_eq_of_eq_ok hset).trans ?_)
  refine (bind_eq_of_eq_ok hrun).trans ((bind_eq_of_eq_ok (get_eq s')).trans ?_)
  -- no initialiser is left that only a pattern may have
  rw [hs'.cover]
  rfl

/-- A part whose own finds are handed on: nothing waits before it, so nothing waits after it. -/
theorem reads_inherit (h : Reads m n p here Q there) : Reads m n (inherit p) here Q there := by
  refine reads_get.bind fun s hs => ?_
  have hcover : s.cover.initializer = none := hs.cover
  refine (reads_setCover fun _ _ => rfl).bind_eq (h.bind fun a hQ => ?_)
  exact (reads_setCover fun c hc => by simp [hcover, hc]).bind_eq (.pure hQ)

/-- `in` is allowed as an operator anyway. -/
theorem reads_allowingIn (h : Reads m n p here Q there) :
    Reads m n (allowingIn true p) here Q there := by
  have hset {ls : List Lexeme} : Reads m n (setContext ({ · with allowIn := true })) ls (· = ()) ls :=
    reads_modify fun s hs => ⟨by rw [hs.context], hs.size, hs.cover, hs.braces, hs.ahead⟩
  refine reads_context.bind_eq (hset.bind_eq (h.bind fun a hQ => ?_))
  exact hset.bind_eq (.pure hQ)

end Grammar

end Specifiers
