import Specifiers.Grammar.Mode
import Specifiers.Grammar.ModuleItem

/-!
# Programs

A text is read as a script or as a module. `parse` closes the circle of the productions: each goal is
read by its production, in which the goals of its parts are one level deeper. A program that nests
beyond a limit is given up.
-/

namespace Specifiers

namespace Grammar

/-- The production of a goal. -/
def production (nested : Nested) : Goal → Parse Tree
  | .assignment => assignment nested
  | .unary => unary nested
  | .exponentiation => exponentiation nested
  | .constructed => constructedChain nested
  | .heritage => callChain nested
  | .statement => statement nested
  | .listItem => listItem nested
  | .pattern binder => pattern nested binder

/-- Reads a goal, in which goals may nest so many levels deep. -/
def parse : Nat → Nested
  | 0, _ => throw .tooDeep
  | depth + 1, goal => production (parse depth) goal

/-- The items of a program, up to the end of the text. -/
def programItems (nested : Nested) : Parse (List Tree) := do
  let first ← directives nested
  let rest ← collect do
    if ← atEnd then return none
    return some (← nested .listItem)
  return first ++ rest

/-- The state before the first token is read: a text without characters has no first line. -/
def State.initial (text : List Char) : State :=
  let cursor := Cursor.start text
  { scanner := { cursor }
    lookahead := ⟨.endOfInput, 0, cursor.place.line⟩
    start := cursor
    lastEnd := cursor.place
    size := text.length }

/-- Reads a program that may have so many levels of goals. The first token is read before it is known that
the text is a module. -/
def program (levels : Nat) (mode : Mode) : Parse Tree := do
  discard take
  modify fun s => { s with lastEnd := s.scanner.cursor.place }
  if mode == .module' then setContext ({ · with strict := true, isModule := true })
  let items ← programItems (parse levels)
  return Node.program mode.name items

/-- The tree of a text under a grammar, if it has no more than so many levels of goals. -/
def parseProgram (levels : Nat) (mode : Mode) (text : String) : Except Failure Tree :=
  let cs := text.toList
  ((program levels mode).run (State.initial cs)).map (·.1)

end Grammar

end Specifiers
