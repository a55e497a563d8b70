import Specifiers.Text.Utf8
import Specifiers.Toml.Item

/-!
# Documents

A document is a run of statements, each on a line of its own: a header, which says to which table the
pairs after it belong, or a pair. What a statement may still do to a table is kept as two lists of
keys: a key that is *sealed* has a value that is complete, so that nothing below it can change; a key
that is *declared* cannot get another header. Keys that the dots of a pair declare are so from the next
header on.
-/

namespace Specifiers

namespace Toml

/-- A document that is being read. -/
structure Draft where
  entries : Table Value := []
  /-- The key of the table to which pairs belong. -/
  header : Key := []
  sealedKeys : List Key := []
  declared : List Key := []
  /-- What will be declared from the next header on. -/
  pending : List Key := []
  deriving Inhabited

namespace Draft

/-- Declares what was to be declared from the next header on. -/
def settle (d : Draft) : Draft := { d with declared := d.pending ++ d.declared, pending := [] }

/-- Nothing is known any more about what is at a key and below it. -/
def forget (d : Draft) (key : Key) : Draft :=
  { d with
    sealedKeys := d.sealedKeys.filter fun k => !key.isPrefixOf k
    declared := d.declared.filter fun k => !key.isPrefixOf k }

/-- Makes a change to the table at a key. -/
def change (d : Draft) (key : Key) (f : Table Value → Except Reason (Table Value)) :
    Except Reason Draft :=
  (changeAt true f key d.entries).map fun entries => { d with entries }

/-- The header of a table. -/
def openTable (d : Draft) (key : Key) : Except Reason Draft :=
  if d.declared.contains key || isBelow d.sealedKeys key then .error (.declaredTwice key)
  else { d with header := key, declared := key :: d.declared }.change key .ok

/-- Adds an empty table to the list at a name. -/
def addItem (name : String) (t : Table Value) : Except Reason (Table Value) :=
  match t.find? name with
  | some (.list items) => .ok (t.insert name (.list (items ++ [.table []])))
  | some _ => .error .overwritten
  | none => .ok (t.insert name (.list [.table []]))

/-- The header of an item of a list. -/
def openItem (d : Draft) (key : Key) : Except Reason Draft :=
  if isBelow d.sealedKeys key then .error (.sealed key)
  else
    let d := d.forget key
    let (names, name) := splitKey key
    { d with header := key, declared := key :: d.declared }.change names (addItem name)

/-- Declares, from the next header on, the tables that the dots of a key in a pair go through, unless
one of them is declared. -/
def passThrough (d : Draft) : List Key → Except Reason Draft
  | [] => .ok d
  | key :: keys =>
    if d.declared.contains key then .error (.redefined key)
    else { d with pending := key :: d.pending }.passThrough keys

/-- The keys of the tables between a header and the last name of a key. -/
def keysBetween (header names : Key) : List Key :=
  (List.range names.length).map fun n => header ++ names.take (n + 1)

/-- A pair. -/
def put (d : Draft) (key : Key) (value : Value) : Except Reason Draft := do
  let (names, name) := splitKey key
  let d ← d.passThrough (keysBetween d.header names)
  let place := d.header ++ names
  if isBelow d.sealedKeys place then .error (.sealed place)
  else
    let d ← d.change place (putNew .overwritten name value)
    return if isCompound value then { d with sealedKeys := (d.header ++ key) :: d.sealedKeys } else d

end Draft

/-- A reason in front of the rest of a text. -/
def atRest {α : Type} (rest : List Char) (e : Except Reason α) : Except Failure α :=
  e.mapError fun reason => .stopped reason rest.length

/-- A statement: a pair or a header, from its first character on. -/
def readStatement (d : Draft) (cs : List Char) : Except Failure (Draft × List Char) :=
  match cs with
  | '[' :: '[' :: rest => do
    let (key, rest) ← readKey (rest.dropWhile isSpace)
    let d ← atRest rest (d.settle.openItem key)
    match rest with
    | ']' :: ']' :: rest => return (d, rest)
    | _ => stop .listHeaderOpen rest
  | '[' :: rest => do
    let (key, rest) ← readKey (rest.dropWhile isSpace)
    let d ← atRest rest (d.settle.openTable key)
    match rest with
    | ']' :: rest => return (d, rest)
    | _ => stop .tableHeaderOpen rest
  | c :: _ =>
    if isKeyStart c then do
      let ((key, value), rest) ← readPair (2 * cs.length + 3) cs
      let d ← atRest rest (d.put key value)
      return (d, rest)
    else stop .noStatement cs
  | [] => .ok (d, [])

/-- The statements of a document; `bound` is at least the number of characters. -/
def readStatements (d : Draft) : Nat → List Char → Except Failure (Table Value)
  | 0, _ => .ok d.entries
  | bound + 1, cs =>
    match cs.dropWhile isSpace with
    | [] => .ok d.entries
    | '\n' :: rest => readStatements d bound rest
    | c :: rest => do
      let (d, rest) ← if c == '#' then .ok (d, c :: rest) else readStatement d (c :: rest)
      match ← afterRemark (rest.dropWhile isSpace) with
      | [] => return d.entries
      | '\n' :: rest => readStatements d bound rest
      | rest => stop .statementGoesOn rest

/-- Makes each carriage return with a line feed after it that line feed. -/
def joinReturns : List Char → List Char
  | '\r' :: '\n' :: cs => '\n' :: joinReturns cs
  | c :: cs => c :: joinReturns cs
  | [] => []

/-- Why bytes are no document. -/
inductive DocumentError
  | decoding (f : Utf8.Fault)
  | reading (text : List Char) (f : Failure)
  deriving DecidableEq, Repr

/-- The wording of the error. -/
def DocumentError.message : DocumentError → String
  | decoding f => f.message
  | reading text f => f.message text

/-- The table that a text spells. -/
def parse (text : List Char) : Except DocumentError (Table Value) :=
  let cs := joinReturns text
  (readStatements {} (cs.length + 1) cs).mapError (.reading cs)

/-- The table that bytes spell. -/
def ofBytes (bytes : List UInt8) : Except DocumentError (Table Value) := do
  let text ← (Utf8.decode? bytes).mapError .decoding
  parse text

end Toml

end Specifiers
