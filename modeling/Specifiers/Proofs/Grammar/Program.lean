import Specifiers.Grammar.Program
import Specifiers.Proofs.Grammar.Parse

/-!
# Reading a program item by item

When the characters of a text spell the tokens of items one after the other, and each item is read by
itself, then the program is that of the items. It is rejected when one of them is.
-/

namespace Specifiers

namespace Grammar

variable {m : Bool} {n k : Nat} {nested : Nested} {ls ls' : List Lexeme} {l : Lexeme} {ι : Type}
  {tokens : ι → List Lexeme} {node : ι → Tree} {items : List ι}

/-! ## Items -/

/-- The tokens are those of an item: they start neither with a string, which could be a directive, nor
with the end of the text. -/
def StartsItem (ls : List Lexeme) : Prop :=
  ∃ l ls', ls = l :: ls' ∧ l.isString = false ∧ (l == .endOfInput) = false

/-- Before any token, the tokens are read as an item with this tree. -/
structure ReadsItem (m : Bool) (n : Nat) (nested : Nested) (ls : List Lexeme) (t : Tree) : Prop where
  starts : StartsItem ls
  reads : ∀ l ls', Reads m n (nested .listItem) (ls ++ l :: ls') (· = t) (l :: ls')

/-- The next item of a program, if there is one. -/
def nextItem (nested : Nested) : Parse (Option Tree) := do
  if ← atEnd then return none
  return some (← nested .listItem)

/-- One step of collecting the items of a program; those so far are kept last first. -/
def itemStep (nested : Nested) (before : List Tree) : Parse (Option (List Tree)) :=
  return (← nextItem nested).map (· :: before)

/-- One step of a list of items reads one item and puts it in front. -/
theorem reads_itemStep {t : Tree} (h : ReadsItem m n nested ls t) (before : List Tree) (l : Lexeme)
    (ls' : List Lexeme) :
    Reads m n (itemStep nested before) (ls ++ l :: ls') (· = some (t :: before)) (l :: ls') := by
  have hreads := h.reads l ls'
  obtain ⟨first, others, rfl, -, hend⟩ := h.starts
  have hnext : Reads m n (nextItem nested) (first :: others ++ l :: ls') (· = some t) (l :: ls') :=
    (reads_ahead (· == .endOfInput)).bind_eq (.if_false hend (hreads.bind_eq (.pure rfl)))
  exact hnext.bind_eq (.pure rfl)

/-- At the end of the text there is no further item. -/
theorem reads_itemStep_end (before : List Tree) :
    Reads m n (itemStep nested before) (.endOfInput :: ls) (· = none) (.endOfInput :: ls) := by
  have hnext : Reads m n (nextItem nested) (.endOfInput :: ls) (· = none) (.endOfInput :: ls) :=
    (reads_ahead (· == .endOfInput)).bind_eq (.if_true rfl (.pure rfl))
  exact hnext.bind_eq (.pure rfl)

/-- The tokens of items, up to the end of the text. -/
def tokensOf (tokens : ι → List Lexeme) (items : List ι) : List Lexeme :=
  items.flatMap tokens ++ [.endOfInput]

/-- There is always a token after those of some items. -/
theorem tokensOf_eq_cons (tokens : ι → List Lexeme) (items : List ι) :
    ∃ l ls, tokensOf tokens items = l :: ls :=
  List.exists_cons_of_ne_nil (by simp [tokensOf])

/-- The tokens of items are those of the first one and those of the others. -/
theorem tokensOf_cons (i : ι) (items : List ι) :
    tokensOf tokens (i :: items) = tokens i ++ tokensOf tokens items := by
  simp [tokensOf]

/-- The step at an item takes its tokens and no others. -/
theorem reads_itemStep_tokensOf {i : ι} (h : ReadsItem m n nested (tokens i) (node i))
    (before : List Tree) (items : List ι) :
    Reads m n (itemStep nested before) (tokensOf tokens (i :: items)) (· = some (node i :: before))
      (tokensOf tokens items) := by
  obtain ⟨l, ls, hls⟩ := tokensOf_eq_cons tokens items
  rw [tokensOf_cons, hls]
  exact reads_itemStep h before l ls

/-- The items are collected one after the other. -/
theorem reads_items (h : ∀ i ∈ items, ReadsItem m n nested (tokens i) (node i))
    (hk : items.length < k) (before : List Tree) :
    Reads m n (iterate (itemStep nested) k before) (tokensOf tokens items)
      (· = (items.map node).reverse ++ before) [.endOfInput] := by
  -- The trees so far are generalised: each item adds its own in front of them.
  induction items generalizing k before with
  | nil =>
    obtain ⟨k, rfl⟩ : ∃ k', k = k' + 1 := ⟨k - 1, by simp at hk; omega⟩
    exact reads_iterate_none (reads_itemStep_end before) rfl
  | cons i items ih =>
    obtain ⟨k, rfl⟩ : ∃ k', k = k' + 1 := ⟨k - 1, by omega⟩
    have hstep := reads_itemStep_tokensOf (h i List.mem_cons_self) before items
    have hrest := ih (k := k) (fun i hi => h i (List.mem_cons_of_mem _ hi)) (by simpa using hk)
      (node i :: before)
    simpa using reads_iterate_some hstep hrest

/-- An item that is rejected ends the collection, whatever comes before it. -/
theorem rejects_items {i : ι} (after : List ι)
    (h : ∀ i ∈ items, ReadsItem m n nested (tokens i) (node i)) (hk : items.length < k)
    (hstart : StartsItem (tokens i))
    (hrejects : ∀ ls', Rejects m n (nested .listItem) (tokens i ++ ls')) (before : List Tree) :
    Rejects m n (iterate (itemStep nested) k before) (tokensOf tokens (items ++ i :: after)) := by
  induction items generalizing k before with
  | nil =>
    obtain ⟨k, rfl⟩ : ∃ k', k = k' + 1 := ⟨k - 1, by simp at hk; omega⟩
    have hitem := hrejects (tokensOf tokens after)
    -- The text does not end here, so the step reads the item.
    obtain ⟨first, others, hfirst, -, hend⟩ := hstart
    rw [hfirst] at hitem
    rw [List.nil_append, tokensOf_cons, hfirst]
    have hnext : Rejects m n (nextItem nested) (first :: others ++ tokensOf tokens after) := by
      refine (reads_ahead (· == .endOfInput)).bind_rejects fun ended hended => ?_
      subst hended
      rw [hend, if_neg Bool.false_ne_true]
      exact hitem.bind
    exact rejects_iterate hnext.bind
  | cons j items ih =>
    obtain ⟨k, rfl⟩ : ∃ k', k = k' + 1 := ⟨k - 1, by omega⟩
    have hstep := reads_itemStep_tokensOf (h j List.mem_cons_self) before (items ++ i :: after)
    have hrest := ih (k := k) (fun i hi => h i (List.mem_cons_of_mem _ hi)) (by simpa using hk)
      (node j :: before)
    exact rejects_iterate_some hstep hrest

/-! ## Programs -/

/-- There are no directives before a token that is no string. -/
theorem reads_directives (h : l.isString = false) :
    Reads m n (directives nested) (l :: ls) (· = []) (l :: ls) := by
  unfold directives
  refine Reads.bind_eq (a := ([], none, false)) (reads_repeated (reads_iterate_none ?_ rfl)) (.pure rfl)
  refine reads_get.bind fun s hs => ?_
  simp only [hs.ahead.1]
  cases l with
  | string => simp [Lexeme.isString] at h
  | _ => exact .pure rfl

/-- No text of items starts with a directive. -/
theorem tokensOf_head (h : ∀ i, items.head? = some i → StartsItem (tokens i)) :
    ∃ l ls, tokensOf tokens items = l :: ls ∧ l.isString = false := by
  cases items with
  | nil => exact ⟨.endOfInput, [], rfl, rfl⟩
  | cons i items =>
    obtain ⟨l, ls, hls, hstring, -⟩ := h i rfl
    exact ⟨l, ls ++ tokensOf tokens items, by simp [tokensOf, hls], hstring⟩

/-- A program of items that are read is read to its end. -/
theorem reads_programItems (h : ∀ i ∈ items, ReadsItem m n nested (tokens i) (node i))
    (hlength : items.length ≤ n) :
    Reads m n (programItems nested) (tokensOf tokens items) (· = items.map node) [.endOfInput] := by
  have hitems := reads_items (k := n + 2) h (by omega) []
  obtain ⟨l, ls, hls, hstring⟩ :=
    tokensOf_head fun i hi => (h i (List.mem_of_mem_head? hi)).starts
  rw [hls] at hitems ⊢
  unfold programItems collect
  refine (reads_directives hstring).bind_eq ?_
  refine Reads.bind_eq (a := items.map node) ?_ (.pure rfl)
  exact (reads_repeated hitems).bind_eq (.pure (by simp))

/-- A program is rejected with an item that is rejected, whatever comes after it. -/
theorem rejects_programItems {i : ι} {after : List ι}
    (h : ∀ i ∈ items, ReadsItem m n nested (tokens i) (node i)) (hlength : items.length ≤ n)
    (hstart : StartsItem (tokens i))
    (hrejects : ∀ ls', Rejects m n (nested .listItem) (tokens i ++ ls')) :
    Rejects m n (programItems nested) (tokensOf tokens (items ++ i :: after)) := by
  have hitems := rejects_items (k := n + 2) after h (by omega) hstart hrejects []
  have hhead : ∀ j, (items ++ i :: after).head? = some j → StartsItem (tokens j) := by
    intro j hj
    cases items with
    | nil =>
      obtain rfl : i = j := by simpa using hj
      exact hstart
    | cons j' items =>
      obtain rfl : j' = j := by simpa using hj
      exact (h j' List.mem_cons_self).starts
  obtain ⟨l, ls, hls, hstring⟩ := tokensOf_head hhead
  rw [hls] at hitems ⊢
  unfold programItems collect
  refine (reads_directives hstring).bind_rejects fun _ _ => Rejects.bind (Rejects.bind ?_)
  exact rejects_repeated hitems

/-- The state in which the items of a program are read, and what is read from it. -/
theorem program_eq {cs : List Char} (levels : Nat) (mode : Mode) (h : Spells cs (l :: ls)) :
    ∃ s, At (mode == .module') cs.length (l :: ls) s ∧
      program levels mode (State.initial cs) =
        (do return Node.program mode.name (← programItems (parse levels)) : Parse Tree) s := by
  -- the parser starts before the first token and takes an end of input to get to it
  have hinitial : At false cs.length (.endOfInput :: l :: ls) (State.initial cs) :=
    ⟨rfl, rfl, rfl, rfl, rfl, h⟩
  obtain ⟨_, s, hrun, -, hs⟩ := reads_take.discard _ hinitial
  have hprogram (s' : State)
      (hs' : s' = (if mode == .module' then
        { s with
          lastEnd := s.scanner.cursor.place
          context := { s.context with strict := true, isModule := true } }
        else { s with lastEnd := s.scanner.cursor.place })) :
      program levels mode (State.initial cs) =
        (do return Node.program mode.name (← programItems (parse levels)) : Parse Tree) s' := by
    unfold program
    simp only [Bind.bind, StateT.bind, hrun, Except.bind]
    cases mode <;> subst hs' <;> rfl
  refine ⟨_, ?_, hprogram _ rfl⟩
  cases mode with
  | script => exact ⟨hs.context, hs.size, hs.cover, hs.braces, hs.ahead⟩
  | module' => exact ⟨by simp [hs.context], hs.size, hs.cover, hs.braces, hs.ahead⟩

/-- The tree of a text whose items can all be read. -/
theorem parseProgram_eq {levels : Nat} {mode : Mode} {text : String}
    (hspells : Spells text.toList (tokensOf tokens items))
    (h : ∀ i ∈ items,
      ReadsItem (mode == .module') text.toList.length (parse levels) (tokens i) (node i))
    (hlength : items.length ≤ text.toList.length) :
    parseProgram levels mode text = .ok (Node.program mode.name (items.map node)) := by
  obtain ⟨l, ls, hls⟩ := tokensOf_eq_cons tokens items
  obtain ⟨s, hs, hprogram⟩ := program_eq levels mode (hls ▸ hspells)
  have hitems : Reads (mode == .module') text.toList.length
      (do return Node.program mode.name (← programItems (parse levels)) : Parse Tree) (l :: ls)
      (· = Node.program mode.name (items.map node)) [.endOfInput] :=
    (hls ▸ reads_programItems h hlength).bind_eq (.pure rfl)
  obtain ⟨t, s', hrun, rfl, -⟩ := hitems s hs
  simp only [parseProgram, StateT.run, hprogram, hrun, Except.map]

/-- A text with an item that is rejected, after items that can be read, is rejected. -/
theorem parseProgram_rejects {levels : Nat} {mode : Mode} {text : String} {i : ι} {after : List ι}
    (hspells : Spells text.toList (tokensOf tokens (items ++ i :: after)))
    (h : ∀ i ∈ items,
      ReadsItem (mode == .module') text.toList.length (parse levels) (tokens i) (node i))
    (hlength : items.length ≤ text.toList.length) (hstart : StartsItem (tokens i))
    (hrejects : ∀ ls', Rejects (mode == .module') text.toList.length (parse levels .listItem)
      (tokens i ++ ls')) :
    ∃ r, parseProgram levels mode text = .error (.rejected r) := by
  obtain ⟨l, ls, hls⟩ := tokensOf_eq_cons tokens (items ++ i :: after)
  obtain ⟨s, hs, hprogram⟩ := program_eq levels mode (hls ▸ hspells)
  have hitems : Rejects (mode == .module') text.toList.length
      (do return Node.program mode.name (← programItems (parse levels)) : Parse Tree) (l :: ls) :=
    (hls ▸ rejects_programItems h hlength hstart hrejects).bind
  obtain ⟨r, hrun⟩ := hitems s hs
  exact ⟨r, by simp only [parseProgram, StateT.run, hprogram, hrun, Except.map]⟩

end Grammar

end Specifiers
