import Specifiers.Toml.Moment
import Specifiers.Toml.Numeral
import Specifiers.Toml.Quotation

/-!
# Keys and values of documents

Keys are names with dots between them. A value is a text, a truth value, a list, a table in line, a
moment or a number; where several would do, the first of these is meant. Lists and tables hold values
in turn: their readers run on a bound, which the length of the text is.
-/

namespace Specifiers

namespace Toml

/-! ## Blanks and remarks -/

/-- Passes over a remark up to the end of its line. -/
def afterRemark (cs : List Char) : Except Failure (List Char) :=
  match cs with
  | '#' :: cs =>
    let content := cs.takeWhile (· != '\n')
    let rest := cs.dropWhile (· != '\n')
    (checked false content rest).map fun _ => rest
  | _ => .ok cs

/-- Passes over blanks, line ends and remarks; `bound` is at least the number of characters. -/
def afterRemarks : Nat → List Char → Except Failure (List Char)
  | 0, cs => .ok cs
  | bound + 1, cs =>
    match cs.dropWhile isSpaceOrNewline with
    | '#' :: rest =>
      match afterRemark ('#' :: rest) with
      | .ok rest => afterRemarks bound rest
      | .error e => .error e
    | rest => .ok rest

/-- Passes over blanks, line ends and remarks. -/
def afterBlanks (cs : List Char) : Except Failure (List Char) := afterRemarks (cs.length + 1) cs

/-! ## Keys -/

/-- May the character stand in a name without quotes? -/
def isBare (c : Char) : Bool := c.isAlphanum || c == '-' || c == '_'

/-- A name of a key. -/
def readName (cs : List Char) : Reading String :=
  match cs with
  | '\x27' :: rest => (readLine '\x27' rest).map fun r => (String.ofList r.1, r.2)
  | '\x22' :: rest => (readLine '\x22' rest).map fun r => (String.ofList r.1, r.2)
  | c :: _ =>
    if isBare c then .ok (String.ofList (cs.takeWhile isBare), cs.dropWhile isBare)
    else stop .noKey cs
  | [] => stop .noKey []

/-- The names of a key, the first of which is read already; `before` holds the names so far, the last
first, and `bound` is at least the number of characters. -/
def moreNames (before : Key) : Nat → List Char → Reading Key
  | bound, cs =>
    match bound, cs.dropWhile isSpace with
    | bound + 1, '.' :: rest =>
      match readName (rest.dropWhile isSpace) with
      | .ok (name, rest) => moreNames (name :: before) bound rest
      | .error e => .error e
    | _, rest => .ok (before.reverse, rest)

/-- A key, with the blanks after it. -/
def readKey (cs : List Char) : Reading Key :=
  match readName cs with
  | .ok (name, rest) => moreNames [name] cs.length rest
  | .error e => .error e

/-- Does a key start with the character? -/
def isKeyStart (c : Char) : Bool := isBare c || c == '\x22' || c == '\x27'

/-! ## Tables -/

/-- Changes the table at a key below a table. Tables on the way that are not there are made; a list on
the way stands for its last item when `intoLists` holds. -/
def changeAt (intoLists : Bool) (change : Table Value → Except Reason (Table Value)) :
    Key → Table Value → Except Reason (Table Value)
  | [], t => change t
  | name :: names, t =>
    match t.find? name with
    | none => (changeAt intoLists change names []).map fun inner => t.insert name (.table inner)
    | some (.table inner) =>
      (changeAt intoLists change names inner).map fun inner => t.insert name (.table inner)
    | some (.list items) =>
      match intoLists, items.getLast? with
      | true, some (.table inner) =>
        (changeAt intoLists change names inner).map fun inner =>
          t.insert name (.list (items.dropLast ++ [.table inner]))
      | _, _ => .error .overwritten
    | some _ => .error .overwritten

/-- Puts a new value at a name. -/
def putNew (taken : Reason) (name : String) (value : Value) (t : Table Value) :
    Except Reason (Table Value) :=
  if (t.find? name).isSome then .error taken else .ok (t.insert name value)

/-- The names before the last one of a key, and the last one. -/
def splitKey (key : Key) : Key × String := (key.dropLast, key.getLast?.getD "")

/-- Does a key lie at or below one of the keys? -/
def isBelow (keys : List Key) (key : Key) : Bool := keys.any fun k => k.isPrefixOf key

/-- Is the value made of others? -/
def isCompound : Value → Bool
  | .list _ | .table _ => true
  | _ => false

/-- A table in line that is being read: its entries, and the keys whose values are complete. -/
structure InlineTable where
  entries : Table Value := []
  sealedKeys : List Key := []
  deriving Inhabited

/-- Puts a value into a table in line. -/
def InlineTable.put (t : InlineTable) (key : Key) (value : Value) : Except Reason InlineTable :=
  if isBelow t.sealedKeys key then .error (.sealed key)
  else
    let (names, name) := splitKey key
    (changeAt false (putNew (.repeatedName name) name value) names t.entries).map fun entries =>
      { entries, sealedKeys := if isCompound value then key :: t.sealedKeys else t.sealedKeys }

/-! ## Values -/

/-- A value that is not made of others. -/
def readPlain (cs : List Char) : Reading Value :=
  match cs with
  | '\x22' :: rest => (readText '\x22' rest).map fun r => (.text (String.ofList r.1), r.2)
  | '\x27' :: rest => (readText '\x27' rest).map fun r => (.text (String.ofList r.1), r.2)
  | 't' :: 'r' :: 'u' :: 'e' :: rest => .ok (.bool true, rest)
  | 'f' :: 'a' :: 'l' :: 's' :: 'e' :: rest => .ok (.bool false, rest)
  | _ =>
    match dated? cs with
    | some (some value, rest) => .ok (value, rest)
    | some (none, _) => stop .moment cs
    | none => match time? cs with
      | some r => .ok r
      | none => match number? cs with
        | some (value, rest) => value.map fun v => (v, rest)
        | none => stop .noValue cs

mutual

/-- A value. -/
def readValue : Nat → List Char → Reading Value
  | 0, cs => stop .noValue cs
  | bound + 1, cs =>
    match cs with
    | '[' :: rest =>
      match afterBlanks rest with
      | .ok (']' :: rest) => .ok (.list [], rest)
      | .ok rest => readItems bound [] rest
      | .error e => .error e
    | '{' :: rest =>
      match rest.dropWhile isSpace with
      | '}' :: rest => .ok (.table [], rest)
      | rest => readEntries bound {} rest
    | _ => readPlain cs

/-- The items of a list, up to its end; `before` holds those so far, the last first. -/
def readItems (bound : Nat) (before : List Value) (cs : List Char) :
    Except Failure (Value × List Char) :=
  match bound with
  | 0 => stop .noValue cs
  | bound + 1 => do
    let (value, rest) ← readValue bound cs
    match ← afterBlanks rest with
    | ']' :: rest => return (.list (value :: before).reverse, rest)
    | ',' :: rest =>
      match ← afterBlanks rest with
      | ']' :: rest => return (.list (value :: before).reverse, rest)
      | rest => readItems bound (value :: before) rest
    | rest => stop .listOpen rest

/-- The entries of a table in line, up to its end. -/
def readEntries (bound : Nat) (t : InlineTable) (cs : List Char) :
    Except Failure (Value × List Char) :=
  match bound with
  | 0 => stop .noValue cs
  | bound + 1 => do
    let ((key, value), rest) ← readPair bound cs
    match t.put key value with
    | .error reason => stop reason rest
    | .ok t =>
      match rest.dropWhile isSpace with
      | '}' :: rest => return (.table t.entries, rest)
      | ',' :: rest => readEntries bound t (rest.dropWhile isSpace)
      | rest => stop .inlineTableOpen rest

/-- A key with its value. -/
def readPair (bound : Nat) (cs : List Char) : Except Failure ((Key × Value) × List Char) :=
  match bound with
  | 0 => stop .noValue cs
  | bound + 1 => do
    let (key, rest) ← readKey cs
    match rest with
    | '=' :: rest =>
      let (value, rest) ← readValue bound (rest.dropWhile isSpace)
      return ((key, value), rest)
    | _ => stop .noEquals rest

end

end Toml

end Specifiers
