import Specifiers.Toml.Failure

/-!
# Quoted texts in documents

A text stands between single quotes, as it is, or between double ones, with escapes; and between three
quotes of a kind it may span several lines. Control characters may not stand in it, but for the tab,
and the line feed in a text of several lines.
-/

namespace Specifiers

namespace Toml

/-- Separates a character words on a line? -/
def isSpace (c : Char) : Bool := c == ' ' || c == '\t'

/-- Separates a character words or lines? -/
def isSpaceOrNewline (c : Char) : Bool := isSpace c || c == '\n'

/-- May a character not stand in a text or a remark? -/
def isIllegal (severalLines : Bool) (c : Char) : Bool :=
  (c.toNat < 0x20 || c == '\x7f') && c != '\t' && !(severalLines && c == '\n')

/-- The characters before a delimiter, and those from it on. -/
def before? (delimiter : List Char) : List Char → Option (List Char × List Char)
  | [] => none
  | c :: cs =>
    if delimiter.isPrefixOf (c :: cs) then some ([], c :: cs)
    else (before? delimiter cs).map fun p => (c :: p.1, p.2)

/-- Checks that no illegal character stands in front of the rest. -/
def checked (severalLines : Bool) (content rest : List Char) : Except Failure (List Char) :=
  match content.dropWhile fun c => !isIllegal severalLines c with
  | [] => .ok content
  | c :: cs => stop (.invalidCharacter c) (c :: cs ++ rest)

/-- Reads up to a delimiter and over it. -/
def readUntil (severalLines : Bool) (delimiter : List Char) (cs : List Char) :
    Reading (List Char) :=
  match before? delimiter cs with
  | none => stop (.missing (String.ofList delimiter)) []
  | some (content, rest) =>
    (checked severalLines content rest).map fun content => (content, rest.drop delimiter.length)

/-! ## Escapes -/

/-- The characters that a single letter after a backslash stands for. -/
def escapes : List (Char × Char) :=
  [('b', '\x08'), ('t', '\t'), ('n', '\n'), ('f', '\x0c'), ('r', '\r'), ('\x22', '\x22'), ('\\', '\\')]

/-- The character with a number in hexadecimal digits. -/
def readHex (digits : Nat) (cs : List Char) : Reading Char :=
  let number := cs.take digits
  let rest := cs.drop digits
  if number.length < digits || !number.all Digit.isHex then stop .hexDigits cs
  else
    let n := Digit.number 16 number
    if n.isValidChar then .ok (Char.ofNat n, rest) else stop .noCharacter rest

/-- What a backslash stands for, given the characters after it. In a text of several lines it can hide
the end of its line and the blanks that follow. -/
def readEscape (severalLines : Bool) : List Char → Reading (List Char)
  | [] => stop .escape []
  | c :: cs =>
    if severalLines && isSpaceOrNewline c then
      match (c :: cs).dropWhile isSpace with
      | [] => .ok ([], [])
      | d :: rest =>
        if d == '\n' then .ok ([], rest.dropWhile isSpaceOrNewline) else stop .escape (d :: rest)
    else if c == 'u' then (readHex 4 cs).map fun r => ([r.1], r.2)
    else if c == 'U' then (readHex 8 cs).map fun r => ([r.1], r.2)
    else match escapes.lookup c with
      | some d => .ok ([d], cs)
      | none => stop .escape cs

/-- Reads a text with escapes up to its closing quotes and over them. `before` holds the characters so
far, the last first, and `skip` how many characters belong to the last escape. -/
def readEscapedFrom (severalLines : Bool) (skip : Nat) (before : List Char) :
    List Char → Reading (List Char)
  | [] => stop .textOpen []
  | c :: cs =>
    match skip with
    | skip + 1 => readEscapedFrom severalLines skip before cs
    | 0 =>
      if c == '\x22' && !severalLines then .ok (before.reverse, cs)
      else if c == '\x22' && ['\x22', '\x22'].isPrefixOf cs then .ok (before.reverse, cs.drop 2)
      else if c == '\\' then
        match readEscape severalLines cs with
        | .error e => .error e
        | .ok (meant, rest) =>
          readEscapedFrom severalLines (cs.length - rest.length) (meant ++ before) cs
      else if isIllegal severalLines c then stop (.illegalCharacter c) (c :: cs)
      else readEscapedFrom severalLines 0 (c :: before) cs

/-! ## Texts -/

/-- Adds the quotes after a text of several lines that belong to it: at most two. -/
def withQuotes (quote : Char) (content rest : List Char) : List Char × List Char :=
  let quotes := (rest.take 2).takeWhile (· == quote)
  (content ++ quotes, rest.drop quotes.length)

/-- Reads a text of one line after its opening quote. -/
def readLine (quote : Char) (cs : List Char) : Reading (List Char) :=
  if quote == '\x22' then readEscapedFrom false 0 [] cs else readUntil false [quote] cs

/-- Reads a text of several lines after its opening quotes. A line feed right after them is dropped. -/
def readLines (quote : Char) (cs : List Char) : Reading (List Char) :=
  let cs := match cs with
    | '\n' :: rest => rest
    | _ => cs
  let read :=
    if quote == '\x22' then readEscapedFrom true 0 [] cs
    else readUntil true [quote, quote, quote] cs
  read.map fun r => withQuotes quote r.1 r.2

/-- Reads a text after its first quote. -/
def readText (quote : Char) (cs : List Char) : Reading (List Char) :=
  if [quote, quote].isPrefixOf cs then readLines quote (cs.drop 2) else readLine quote cs

end Toml

end Specifiers
