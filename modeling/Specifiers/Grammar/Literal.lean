import Specifiers.Grammar.Escape
import Specifiers.Grammar.RegexPattern
import Specifiers.Grammar.Token

/-!
# Names and literals

Readers for the tokens that are more than a mark: names, numbers, strings, pieces of templates and
regular expressions. A reader gets the place and the characters from the token's first character on
(strings and templates: from the one after the opening mark), and gives the token with the cursor after
it, or the rejection. All of them run down the list of characters; where an escape spans several of
them, the reader moves its place at the backslash and then passes over the given number of characters.
-/

namespace Specifiers

namespace Grammar

/-! ## Names -/

/-- The character that an escape in a name gives, and how many characters after the backslash it
takes; else how many there are before the fault. Between braces any code point will do; given by four
digits it has to be one that may stand there. -/
def nameEscape (first : Bool) (cs : List Char) : Except Nat (Char × Nat) :=
  match cs with
  | 'u' :: rest => match Escape.unicode rest with
    | .error n => .error (n + 1)
    | .ok (code, n) =>
      let c := charOfCode code
      let fits := c != '\\' && (if first then IdentifierChar.isStart c else IdentifierChar.isPart c)
      if rest.head? == some '{' || fits then .ok (c, n + 1) else .error (n + 1)
  | _ => .error 0

/-- The characters of a name. `first` says whether none is read yet, and `skip` how many characters
belong to an escape already read. -/
def nameFrom (first : Bool) (skip : Nat) (name : List Char) (p : Place) :
    List Char → Except Rejection (List Char × Cursor)
  | [] => .ok (name.reverse, ⟨p, []⟩)
  | c :: cs =>
    match skip with
    | skip + 1 => nameFrom first skip name p cs
    | 0 =>
      if c == '\\' then
        match nameEscape first cs with
        | .ok (d, n) => nameFrom false n (d :: name) (p.forward (n + 1)) cs
        | .error n => .error ((p.forward (n + 1)).reject)
      else if first || IdentifierChar.isPart c then nameFrom false 0 (c :: name) (p.forward 1) cs
      else .ok (name.reverse, ⟨p, c :: cs⟩)

/-- A name or word. A word with a meaning of its own must be spelled without escapes. -/
def scanName (p : Place) (cs : List Char) : Except Rejection (Lexeme × Cursor) := do
  let (name, after) ← nameFrom true 0 [] p cs
  let lexeme := lexemeOfWord (String.ofList name)
  if !lexeme.isIdentifier && name.length + p.index != after.place.index then
    throw ({ after.place with index := p.index }.reject .escapedKeyword)
  return (lexeme, after)

/-! ## Numbers -/

/-- Does a token that a number runs into start here? -/
def runsOn (cs : List Char) : Bool :=
  match cs with
  | c :: _ => IdentifierChar.isStart c || c.isDigit
  | [] => false

/-- A number in another base, after the characters that say which. -/
def scanRadix (isDigit : Char → Bool) (lead : List Char) (octal : Bool) (p : Place)
    (cs : List Char) : Except Rejection (Lexeme × Cursor) :=
  let digits := cs.takeWhile isDigit
  let rest := cs.dropWhile isDigit
  let p := p.forward (lead.length + digits.length)
  if digits.isEmpty || runsOn rest then .error p.reject
  else .ok (.number (String.ofList (lead ++ digits)) octal, ⟨p, rest⟩)

/-- The fraction of a decimal number: a point and the digits after it. -/
def fraction : List Char → List Char
  | '.' :: cs => '.' :: cs.takeWhile Char.isDigit
  | _ => []

/-- The mark of an exponent and its sign, and the digits after them. -/
def exponent : List Char → List Char × List Char
  | e :: cs =>
    if e == 'e' || e == 'E' then
      match cs with
      | sign :: ds =>
        if sign == '+' || sign == '-' then ([e, sign], ds.takeWhile Char.isDigit)
        else ([e], cs.takeWhile Char.isDigit)
      | [] => ([e], [])
    else ([], [])
  | [] => ([], [])

/-- A decimal number. -/
def scanDecimal (p : Place) (cs : List Char) : Except Rejection (Lexeme × Cursor) :=
  let whole := cs.takeWhile Char.isDigit
  let mantissa := whole ++ fraction (cs.drop whole.length)
  let (mark, digits) := exponent (cs.drop mantissa.length)
  let number := mantissa ++ mark ++ digits
  let rest := cs.drop number.length
  let p := p.forward number.length
  if (!mark.isEmpty && digits.isEmpty) || runsOn rest then .error p.reject
  else .ok (.number (String.ofList number) false, ⟨p, rest⟩)

/-- Are these, after a zero, the digits of an octal number without a mark? There must be one, and the
run of them must not go on with 8 or 9. -/
def isLegacyOctal (cs : List Char) : Bool :=
  let after := cs.dropWhile Digit.isOctal
  cs.head?.any Digit.isOctal && !(after.head?.any fun c => c == '8' || c == '9')

/-- A number. -/
def scanNumber (p : Place) (cs : List Char) : Except Rejection (Lexeme × Cursor) :=
  match cs with
  | '0' :: x :: digits =>
    if x == 'x' || x == 'X' then scanRadix Digit.isHex ['0', x] false p digits
    else if x == 'b' || x == 'B' then scanRadix Digit.isBinary ['0', x] false p digits
    else if x == 'o' || x == 'O' then scanRadix Digit.isOctal ['0', x] false p digits
    else if isLegacyOctal (x :: digits) then scanRadix Digit.isOctal ['0'] true p (x :: digits)
    else scanDecimal p cs
  | _ => scanDecimal p cs

/-! ## Strings and templates -/

/-- A string up to its closing quote. A string that does not end is blamed on its opening quote, at
`start`. -/
def stringFrom (quote : Char) (start : Nat) (skip : Nat) (codes : List Nat) (raw : List Char)
    (octal : Bool) (p : Place) : List Char → Except Rejection (Lexeme × Cursor)
  | [] => .error ({ p with index := start }.reject)
  | c :: cs =>
    match skip with
    | skip + 1 => stringFrom quote start skip codes (c :: raw) octal p cs
    | 0 =>
      if c == quote then
        .ok (.string (String.ofList (textOfCodes codes.reverse)) (String.ofList raw.reverse) octal,
          ⟨p.forward 1, cs⟩)
      else if c == '\\' then
        match Escape.ofString cs with
        | .code v n => stringFrom quote start n (v :: codes) (c :: raw) octal (p.forward (n + 1)) cs
        | .octal v n => stringFrom quote start n (v :: codes) (c :: raw) true (p.forward (n + 1)) cs
        | .lineEnd n =>
          stringFrom quote start n codes (c :: raw) octal ((p.forward 1).newLine n) cs
        | .fault n complaint => .error ((p.forward (n + 1)).reject complaint)
      else if isLineTerminator c then .error ({ p with index := start }.reject)
      else stringFrom quote start 0 (c.toNat :: codes) (c :: raw) octal (p.forward 1) cs

/-- The mark that opens and closes a template. -/
def templateMark : Char := '\x60'

/-- A piece of a template, up to its end or to the next substitution. Only its raw characters are
kept. -/
def templateFrom (head : Bool) (skip : Nat) (raw : List Char) (p : Place) :
    List Char → Except Rejection (Lexeme × Cursor)
  | [] => .error p.reject
  | c :: cs =>
    match skip with
    | skip + 1 => templateFrom head skip (c :: raw) p cs
    | 0 =>
      if c == templateMark then
        .ok (.template (String.ofList raw.reverse) head true, ⟨p.forward 1, cs⟩)
      else if c == '$' && cs.head? == some '{' then
        .ok (.template (String.ofList raw.reverse) head false, ⟨p.forward 2, cs.tail⟩)
      else if c == '\\' then
        match Escape.ofTemplate cs with
        | .code _ n | .octal _ n => templateFrom head n (c :: raw) (p.forward (n + 1)) cs
        | .lineEnd n => templateFrom head n (c :: raw) ((p.forward 1).newLine n) cs
        | .fault n complaint => .error ((p.forward (n + 1)).reject complaint)
      else if isLineTerminator c then
        let n := lineEndLength (c :: cs)
        templateFrom head (n - 1) (c :: raw) (p.newLine n) cs
      else templateFrom head 0 (c :: raw) (p.forward 1) cs

/-! ## Regular expressions -/

/-- The body of a regular expression, after its opening slash: up to a slash that is neither escaped
nor in a set. -/
def regexBody (inSet escaped : Bool) (body : List Char) (p : Place) :
    List Char → Except Rejection (List Char × Cursor)
  | [] => .error ((if escaped then p.forward 1 else p).reject .unterminatedRegularExpression)
  | c :: cs =>
    if isLineTerminator c then .error ((p.forward 1).reject .unterminatedRegularExpression)
    else if escaped then regexBody inSet false (c :: body) (p.forward 1) cs
    else if c == '\\' then regexBody inSet true (c :: body) (p.forward 1) cs
    else if inSet then regexBody (c != ']') false (c :: body) (p.forward 1) cs
    else if c == '/' then .ok (body.reverse, ⟨p.forward 1, cs⟩)
    else regexBody (c == '[') false (c :: body) (p.forward 1) cs

/-- The flags of a regular expression, which must be spelled without escapes. -/
def regexFlags (flags : List Char) (p : Place) : List Char → Except Rejection (List Char × Cursor)
  | [] => .ok (flags.reverse, ⟨p, []⟩)
  | c :: cs =>
    if c == '\\' && !cs.isEmpty then
      match cs with
      | 'u' :: rest =>
        .error ((p.forward (if (Escape.hexDigits 4 rest).isOk then 6 else 2)).reject)
      | _ => .error ((p.forward 1).reject)
    else if IdentifierChar.isPart c then regexFlags (c :: flags) (p.forward 1) cs
    else .ok (flags.reverse, ⟨p, c :: cs⟩)

/-- A regular expression, from its opening slash on. -/
def scanRegex (p : Place) (cs : List Char) : Except Rejection (Lexeme × Cursor) := do
  let (body, after) ← regexBody false false [] (p.forward 1) cs.tail
  let (flags, after) ← regexFlags [] after.place after.rest
  unless RegexPattern.isWellFormed body do throw (after.place.reject .regularExpression)
  return (.regex (String.ofList body) (String.ofList flags), after)

end Grammar

end Specifiers
