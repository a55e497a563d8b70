import Specifiers.Text.Digit
import Specifiers.Text.IdentifierChar

/-!
# Well-formed regular expression patterns

Which pattern bodies a regular expression literal may have. The dialect is the one of backtracking
engines with numbered and `(?P<name>…)` named groups: groups must balance, a quantifier needs
something before it that is neither a quantifier nor a position, ranges must not run backwards, a
back reference needs a group that is already closed, and what is looked behind must have a fixed
width. Unicode escapes are replaced by their characters before the pattern is read, so an escaped
parenthesis given by its number groups.

A pattern is read as a list of *pieces*, a piece being a character or a backslash with its character.
The reader keeps the rest of the pieces, the widths of the groups closed so far, and for a sequence
its width and the nature of its last item.
-/

namespace Specifiers

namespace RegexPattern

/-! ## Unicode escapes -/

/-- The code point that stands for one beyond the basic plane. -/
def astral : Nat := 0xFFFF

/-- The unicode escape at the start of the characters: its value and its length. -/
def unicodeEscape? (cs : List Char) : Option (Nat × Nat) :=
  match cs with
  | '\\' :: 'u' :: '{' :: rest =>
    let digits := rest.takeWhile Digit.isHex
    if digits.isEmpty || (rest.drop digits.length).head? != some '}' then none
    else some (Digit.number 16 digits, digits.length + 4)
  | '\\' :: 'u' :: rest =>
    let digits := rest.take 4
    if digits.length == 4 && digits.all Digit.isHex then some (Digit.number 16 digits, 6) else none
  | _ => none

/-- The code points of a pattern with its unicode escapes replaced; none when an escape denotes no
code point. The first `skip` characters belong to an escape already replaced. -/
def unescape (skip : Nat) : List Char → Option (List Nat)
  | [] => some []
  | c :: cs =>
    match skip with
    | skip + 1 => unescape skip cs
    | 0 => match unicodeEscape? (c :: cs) with
      | some (code, length) =>
        if code > 0x10FFFF then none
        else (unescape (length - 1) cs).map ((if code ≤ 0xFFFF then code else astral) :: ·)
      | none => (unescape 0 cs).map (c.toNat :: ·)

/-- Replaces each pair of surrogates by one code point. -/
def joinSurrogates : List Nat → List Nat
  | high :: low :: rest =>
    if 0xD800 ≤ high && high ≤ 0xDBFF && 0xDC00 ≤ low && low ≤ 0xDFFF then
      astral :: joinSurrogates rest
    else high :: joinSurrogates (low :: rest)
  | rest => rest

/-! ## Pieces -/

/-- A character of a pattern, or a backslash with the character after it. -/
inductive Piece
  | plain (code : Nat)
  | escaped (code : Nat)
  deriving DecidableEq, Repr

/-- Splits a pattern into pieces; none when it ends in a lone backslash. -/
def pieces : List Nat → Option (List Piece)
  | [] => some []
  | [92] => none
  | 92 :: c :: rest => (pieces rest).map (.escaped c :: ·)
  | c :: rest => (pieces rest).map (.plain c :: ·)

/-- Is the piece this plain character? -/
def Piece.isChar (p : Piece) (c : Char) : Bool := p == .plain c.toNat

/-- The character of a plain piece. -/
def Piece.char? : Piece → Option Char
  | .plain n => if n < 128 then some (Char.ofNat n) else none
  | .escaped _ => none

/-! ## The reader -/

/-- The least and the greatest number of characters that a part of a pattern matches. -/
structure Width where
  low : Nat
  high : Nat
  deriving DecidableEq, Repr

namespace Width

/-- Widths stand for "unbounded" from here on: two to the power of 64. -/
def bound : Nat := 0x10000000000000000

def zero : Width := ⟨0, 0⟩

def one : Width := ⟨1, 1⟩

/-- The width of two parts one after the other. -/
def add (a b : Width) : Width := ⟨min (a.low + b.low) bound, min (a.high + b.high) bound⟩

/-- The width of two alternatives. -/
def either (a b : Width) : Width := ⟨min a.low b.low, max a.high b.high⟩

/-- The width of a part repeated. -/
def times (a : Width) (least : Nat) (most : Option Nat) : Width :=
  ⟨min (a.low * least) bound,
    match most with
    | some n => min (a.high * n) bound
    | none => if a.high = 0 then 0 else bound⟩

/-- Has everything matched the same length, one that can be looked behind? -/
def isFixed (a : Width) : Bool := a.low == a.high && a.low < 0x100000000

end Width

/-- What a quantifier finds before it. -/
inductive LastItem
  | nothing
  | position
  | quantified
  | other
  deriving DecidableEq, Repr

/-- A sequence of items: the width of all but the last, and the nature and width of the last. -/
structure Items where
  before : Width := .zero
  last : LastItem := .nothing
  lastWidth : Width := .zero

namespace Items

/-- The width of all items. -/
def width (s : Items) : Width := s.before.add s.lastWidth

/-- Adds an item at the end. -/
def push (s : Items) (item : LastItem) (width : Width) : Items := ⟨s.width, item, width⟩

/-- Adds an item that matches one character. -/
def char (s : Items) : Items := s.push .other .one

end Items

/-- The state of the reader: the pieces left; for each group in order of opening its width once it is
closed; the names of groups; inside a look-behind the number of groups opened before it; the groups
that conditions ask for; and the flags set for the whole pattern. -/
structure Reader where
  rest : List Piece
  groups : Array (Option Width) := #[]
  names : List (String × Nat) := []
  lookBehind : Option Nat := none
  asked : List Nat := []
  flags : List Char := []

/-- Reading a part of a pattern; failure means that the pattern is not well-formed. -/
abbrev Read := StateT Reader Option

/-- The next piece, without taking it. -/
def peek : Read (Option Piece) := return (← get).rest.head?

/-- Takes the next piece; there has to be one. -/
def take : Read Piece := do
  match (← get).rest with
  | p :: rest => modify ({ · with rest }); return p
  | [] => failure

/-- Takes the next piece when it is this character, and says whether it was. -/
def accept (c : Char) : Read Bool := do
  match (← get).rest with
  | p :: rest => if p.isChar c then modify ({ · with rest }); return true else return false
  | [] => return false

/-- Takes the next piece, which has to be this character. -/
def require (c : Char) : Read Unit := do
  unless ← accept c do failure

/-- Takes at most `n` plain pieces of a class of characters. -/
def takeWhile (n : Nat) (p : Char → Bool) : Read (List Char) := do
  let run := ((← get).rest.takeWhile fun piece => piece.char?.any p).take n
  modify fun s => { s with rest := s.rest.drop run.length }
  return run.filterMap (·.char?)

/-- Takes the pieces before a closing character and that character; a backslash in between counts as
one more piece that no name may have. -/
def takeUntil (close : Char) : Read (List Piece) := do
  let run := (← get).rest.takeWhile fun piece => !piece.isChar close
  modify fun s => { s with rest := s.rest.drop run.length }
  require close
  if run.isEmpty then failure
  return run

/-- Is the group closed? -/
def isClosed (s : Reader) (group : Nat) : Bool := ((s.groups[group - 1]?).bind id).isSome

/-- Checks that a group may be referred to here: it has to be closed, and inside a look-behind it has
to lie before it. -/
def checkLookBehind (group : Nat) : Read Unit := do
  let s ← get
  match s.lookBehind with
  | none => return
  | some opened => if isClosed s group && group ≤ opened then return else failure

/-- The width of a back reference to a group, which has to be closed. -/
def backReference (group : Nat) : Read Width := do
  match ((← get).groups[group - 1]?).bind id with
  | some w => checkLookBehind group; return w
  | none => failure

/-- Reads exactly `n` hexadecimal digits. -/
def hexExactly (n : Nat) : Read Nat := do
  let digits ← takeWhile n Digit.isHex
  if digits.length == n then return Digit.number 16 digits else failure

/-- The code point of an escape that both sets and sequences know: a control letter, a number in
hexadecimal, or a character that is no ASCII letter or digit. -/
def literalEscape (code : Nat) : Read Nat := do
  let c := Char.ofNat code
  if 128 ≤ code then return code
  match c with
  | 'a' => return 7
  | 'b' => return 8
  | 'f' => return 12
  | 'n' => return 10
  | 'r' => return 13
  | 't' => return 9
  | 'v' => return 11
  | 'x' => hexExactly 2
  | 'u' => hexExactly 4
  | 'U' =>
    let n ← hexExactly 8
    if n ≤ 0x10FFFF then return n else failure
  | _ => if c.isAlphanum then failure else return code

/-- A member of a set: a code point, or a class. -/
def setEscape (code : Nat) : Read (Option Nat) := do
  let c := Char.ofNat code
  if "dDsSwW".toList.contains c then return none
  if Digit.isOctal c then
    let n := Digit.number 8 (c :: (← takeWhile 2 Digit.isOctal))
    if n ≤ 0o377 then return some n else failure
  return some (← literalEscape code)

/-- Reads the members of a set up to its closing bracket; `some` tells whether the set has members
already. -/
def setMembers : Nat → Bool → Read Unit
  | 0, _ => failure
  | fuel + 1, some' => do
    let p ← take
    if p.isChar ']' && some' then return
    let low ← match p with
      | .plain n => pure (some n)
      | .escaped n => setEscape n
    if ← accept '-' then
      let q ← take
      if q.isChar ']' then return
      let high ← match q with
        | .plain n => pure (some n)
        | .escaped n => setEscape n
      match low, high with
      | some l, some h => if h < l then failure
      | _, _ => failure
    setMembers fuel true

/-- Reads an escape outside sets and adds its item. -/
def escapeItem (s : Items) (code : Nat) : Read Items := do
  let c := Char.ofNat code
  if "AbBZ".toList.contains c then return s.push .position .zero
  if "dDsSwW".toList.contains c then return s.char
  if c == '0' then
    discard <| takeWhile 2 Digit.isOctal
    return s.char
  if c.isDigit then
    let second ← takeWhile 1 Char.isDigit
    let third ← match second with
      | [d] => if Digit.isOctal c && Digit.isOctal d then takeWhile 1 Digit.isOctal else pure []
      | _ => pure []
    if third.isEmpty then
      let group := Digit.number 10 (c :: second)
      return s.push .other (← backReference group)
    else if Digit.number 8 (c :: second ++ third) ≤ 0o377 then return s.char
    else failure
  discard <| literalEscape code
  return s.char

/-- The numbers a quantifier in braces allows: a least and, if bounded, a greatest. -/
def braces : Read (Option (Nat × Option Nat)) := do
  let start ← get
  let all := start.rest.length
  let low ← takeWhile all Char.isDigit
  let bounded := !(← accept ',')
  let high ← if bounded then pure low else takeWhile all Char.isDigit
  if start.rest.head?.any (·.isChar '}') || !(← accept '}') then
    set start
    return none
  let least := Digit.number 10 low
  let most := if high.isEmpty then none else some (Digit.number 10 high)
  if least ≥ 0xFFFFFFFF || most.any (fun m => m ≥ 0xFFFFFFFF || m < least) then failure
  return some (least, most)

/-- Applies a quantifier to the last item, with the mark for lazy or possessive matching that may
follow it. -/
def quantify (s : Items) (least : Nat) (most : Option Nat) : Read Items := do
  if s.last != .other then failure
  unless ← accept '?' do discard <| accept '+'
  return { s with last := .quantified, lastWidth := s.lastWidth.times least most }

/-- The letters of flags that can be set inside a pattern, less the one for byte patterns. -/
def flagLetters : List Char := ['i', 'm', 's', 'x', 'a', 't', 'u']

/-- Reads flags, of which `first` is already taken. For a group: the flags it turns on and off. For
the whole pattern: nothing, and they are noted. -/
def groupFlags (first : Char) : Read (Option (List Char × List Char)) := do
  let more ← if first == '-' then pure [] else do
    let n := (← get).rest.length
    takeWhile n flagLetters.contains
  let on := if first == '-' then [] else first :: more
  if on.contains 'a' && on.contains 'u' then failure
  if first != '-' && (← accept ')') then
    modify fun s => { s with flags := on ++ s.flags }
    return none
  if on.contains 't' then failure
  let dash ← if first == '-' then pure true else accept '-'
  let off ← if dash then do
      let n := (← get).rest.length
      takeWhile n flagLetters.contains
    else pure []
  if dash && (off.isEmpty || off.any fun c => c == 'a' || c == 'u' || c == 't') then failure
  require ':'
  if on.any off.contains then failure
  return some (on, off)

/-- Is the text a name for a group? -/
def isGroupName (run : List Piece) : Bool :=
  let chars := run.map fun
    | .plain n => Char.ofNat n
    | .escaped _ => '\\'
  let ok (p : Char → Bool) (c : Char) := p c && c != '$' && c != '\\'
  match chars with
  | c :: cs => ok IdentifierChar.isStart c && cs.all (ok IdentifierChar.isPart)
  | [] => false

/-- The text of a name. -/
def groupName (run : List Piece) : String :=
  String.ofList (run.filterMap fun
    | .plain n => some (Char.ofNat n)
    | .escaped _ => none)

/-- Reads a back reference by name, after `(?P=`. -/
def namedReference (s : Items) : Read Items := do
  let run ← takeUntil ')'
  match (← get).names.lookup (groupName run) with
  | some group => if isGroupName run then return s.push .other (← backReference group) else failure
  | none => failure

/-- The group that a condition asks for, after `(?(`. -/
def condition : Read Nat := do
  let run ← takeUntil ')'
  let group ← if isGroupName run then
      match (← get).names.lookup (groupName run) with
      | some group => pure group
      | none => failure
    else
      let digits := run.filterMap (·.char?)
      if digits.length == run.length && digits.all Char.isDigit then
        let n := Digit.number 10 digits
        if n = 0 ∨ n ≥ 1073741823 then failure
        modify fun s => { s with asked := n :: s.asked }
        pure n
      else failure
  checkLookBehind group
  return group

/-- How deeply groups may nest. -/
def nestingLimit : Nat := 200

mutual

/-- Reads alternatives up to the end or a closing parenthesis. -/
def alternatives (fuel : Nat) (verbose : Bool) (depth : Nat) : Read Width :=
  match fuel with
  | 0 => failure
  | fuel + 1 => do
    if depth > nestingLimit then failure
    let first ← sequence fuel verbose depth (depth == 0) {}
    moreAlternatives fuel verbose depth first.width

/-- Reads further alternatives. -/
def moreAlternatives (fuel : Nat) (verbose : Bool) (depth : Nat) (width : Width) : Read Width :=
  match fuel with
  | 0 => failure
  | fuel + 1 => do
    unless ← accept '|' do return width
    let flags := (← get).flags
    let verbose := if depth == 0 then flags.contains 'x' else verbose
    let next ← sequence fuel verbose depth false {}
    moreAlternatives fuel verbose depth (width.either next.width)

/-- Reads the items of a sequence up to the end, a bar or a closing parenthesis. `first` says whether
the sequence starts the pattern. -/
def sequence (fuel : Nat) (verbose : Bool) (depth : Nat) (first : Bool) (s : Items) : Read Items :=
  match fuel with
  | 0 => failure
  | fuel + 1 => do
    match ← peek with
    | none => return s
    | some p =>
      if p.isChar '|' || p.isChar ')' then return s
      discard take
      match p with
      | .escaped code => sequence fuel verbose depth first (← escapeItem s code)
      | .plain code =>
        let c := Char.ofNat code
        if 128 ≤ code then sequence fuel verbose depth first s.char
        else if verbose && (c.isWhitespace || c == '\x0b' || c == '\x0c') then
          sequence fuel verbose depth first s
        else if verbose && c == '#' then
          modify fun st => { st with rest := (st.rest.dropWhile fun q => !q.isChar '\n').drop 1 }
          sequence fuel verbose depth first s
        else match c with
          | '[' =>
            discard <| accept '^'
            setMembers ((← get).rest.length + 1) false
            sequence fuel verbose depth first s.char
          | '?' => sequence fuel verbose depth first (← quantify s 0 (some 1))
          | '*' => sequence fuel verbose depth first (← quantify s 0 none)
          | '+' => sequence fuel verbose depth first (← quantify s 1 none)
          | '{' => match ← braces with
            | some (least, most) => sequence fuel verbose depth first (← quantify s least most)
            | none => sequence fuel verbose depth first s.char
          | '^' | '$' => sequence fuel verbose depth first (s.push .position .zero)
          | '(' =>
            let (verbose, s) ← group fuel verbose depth first s
            sequence fuel verbose depth first s
          | _ => sequence fuel verbose depth first s.char

/-- Reads what follows an opening parenthesis and adds its item. -/
def group (fuel : Nat) (verbose : Bool) (depth : Nat) (first : Bool) (s : Items) :
    Read (Bool × Items) :=
  match fuel with
  | 0 => failure
  | fuel + 1 => do
    unless ← accept '?' do
      return (verbose, ← capture fuel verbose depth s)
    let p ← take
    match p.char? with
    | some 'P' =>
      if ← accept '<' then
        let run ← takeUntil '>'
        let name := groupName run
        if !isGroupName run || ((← get).names.lookup name).isSome then failure
        modify fun st => { st with names := (name, st.groups.size + 1) :: st.names }
        return (verbose, ← capture fuel verbose depth s)
      require '='
      return (verbose, ← namedReference s)
    | some '#' =>
      let st ← get
      let after := st.rest.dropWhile fun q => !q.isChar ')'
      if after.isEmpty then failure
      set { st with rest := after.drop 1 }
      return (verbose, s)
    | some '=' | some '!' =>
      discard <| alternatives fuel verbose (depth + 1)
      require ')'
      return (verbose, s.push .other .zero)
    | some '<' =>
      unless ← accept '=' do require '!'
      let outer := (← get).lookBehind
      if outer.isNone then modify fun st => { st with lookBehind := some st.groups.size }
      let width ← alternatives fuel verbose (depth + 1)
      modify fun st => { st with lookBehind := outer }
      require ')'
      unless width.isFixed do failure
      return (verbose, s.push .other .zero)
    | some '(' =>
      discard condition
      let yes ← sequence fuel verbose (depth + 1) false {}
      let width ← if ← accept '|' then do
          let no ← sequence fuel verbose (depth + 1) false {}
          pure (yes.width.either no.width)
        else pure (yes.width.either .zero)
      require ')'
      return (verbose, s.push .other width)
    | some ':' | some '>' => return (verbose, ← closeGroup fuel verbose depth s)
    | some c =>
      if flagLetters.contains c || c == '-' then
        match ← groupFlags c with
        | none =>
          if !first || s.last != .nothing then failure
          return ((← get).flags.contains 'x', s)
        | some (on, off) =>
          let inner := (verbose || on.contains 'x') && !off.contains 'x'
          return (verbose, ← closeGroup fuel inner depth s)
      else failure
    | none => failure

/-- Reads the contents of a group that captures, up to its closing parenthesis. -/
def capture (fuel : Nat) (verbose : Bool) (depth : Nat) (s : Items) : Read Items :=
  match fuel with
  | 0 => failure
  | fuel + 1 => do
    let index := (← get).groups.size
    modify fun st => { st with groups := st.groups.push none }
    let width ← alternatives fuel verbose (depth + 1)
    require ')'
    modify fun st => { st with groups := st.groups.setIfInBounds index (some width) }
    return s.push .other width

/-- Reads the contents of a group that does not capture, up to its closing parenthesis. -/
def closeGroup (fuel : Nat) (verbose : Bool) (depth : Nat) (s : Items) : Read Items :=
  match fuel with
  | 0 => failure
  | fuel + 1 => do
    let width ← alternatives fuel verbose (depth + 1)
    require ')'
    return s.push .other width

end

/-- Reads a whole pattern. -/
def whole (fuel : Nat) : Read Unit := do
  discard <| alternatives fuel false 0
  let s ← get
  if !s.rest.isEmpty || s.asked.any (fun g => s.groups.size < g) ||
      (s.flags.contains 'a' && s.flags.contains 'u') then failure

/-- May a regular expression literal have this body? -/
def isWellFormed (pattern : List Char) : Bool :=
  match (unescape 0 pattern).bind fun codes => pieces (joinSurrogates codes) with
  | some ps => ((whole (4 * ps.length + 8)).run { rest := ps }).isSome
  | none => false

end RegexPattern

end Specifiers
