import Specifiers.Console.Display
import Specifiers.Console.Emoji

/-!
# Markup of messages

A tag is a name in square brackets, perhaps with parameters behind an equals sign, and sets a style, up to
the tag that closes it. An at sign before the name makes it an action, whose parameters are read when it is
closed. A tag after an odd number of backslashes is text; of the backslashes before a tag every other one is
text. Escaping puts backslashes before the tags of a text, so that they are shown as they are.

Styles are not shown. What remains of a message is its text, with emoji in place of their names and
without the control characters that would move the cursor.
-/

namespace Specifiers

namespace Console

/-! ## Tags -/

/-- A part of a message: characters, or a tag with the backslashes before it. -/
inductive Part
  | plain (cs : List Char)
  | tag (slashes : Nat) (content : List Char)
  deriving DecidableEq, Repr

/-- May a tag start with the character? -/
def isTagStart (c : Char) : Bool := ('a' ≤ c && c ≤ 'z') || c == '#' || c == '/' || c == '@'

/-- What stands in the brackets of a tag, given the characters after the opening one. -/
def tagContent? : List Char → Option (List Char)
  | [] => none
  | c :: cs =>
    if isTagStart c then
      match cs.span fun d => d != ']' && d != '[' with
      | (content, ']' :: _) => some (c :: content)
      | _ => none
    else none

/-- A plain part, if there is something in it. -/
def plainPart (before : List Char) : List Part :=
  if before.isEmpty then [] else [.plain before.reverse]

/-- Backslashes. -/
def slashes (n : Nat) : List Char := List.replicate n '\\'

/-- The parts of a message. `before` holds the characters of the current part, the last first, `count`
the number of backslashes just before, and `skip` how many characters belong to a tag already seen. -/
def partsFrom (before : List Char) (count skip : Nat) : List Char → List Part
  | [] => plainPart (slashes count ++ before)
  | c :: cs =>
    match skip with
    | skip + 1 => partsFrom before count skip cs
    | 0 =>
      if c == '\\' then partsFrom before (count + 1) 0 cs
      else if c == '[' then
        match tagContent? cs with
        | some content =>
          plainPart before ++ .tag count content :: partsFrom [] 0 (content.length + 1) cs
        | none => partsFrom (c :: slashes count ++ before) 0 0 cs
      else partsFrom (c :: slashes count ++ before) 0 0 cs

/-- The parts of a message. -/
def parts (cs : List Char) : List Part := partsFrom [] 0 0 cs

/-! ## Escaping -/

/-- A part with one backslash more than would leave a tag a tag. -/
def Part.escaped : Part → List Char
  | plain cs => cs
  | tag n content => slashes (2 * n + 1) ++ '[' :: content ++ [']']

/-- Doubles a backslash that is the last character and not the second of two. -/
def closeSlash (cs : List Char) : List Char :=
  match cs.reverse with
  | '\\' :: '\\' :: _ => cs
  | '\\' :: _ => cs ++ ['\\']
  | _ => cs

/-- A text as it is put into a message. -/
def escape (s : String) : String :=
  String.ofList (closeSlash ((parts s.toList).flatMap Part.escaped))

/-! ## Rendering -/

/-- Why a message cannot be shown: a tag closes a style that is not open, or one of no name where none
is open, or an action whose parameters cannot be read, or the characters to be shown cannot be put out.
Positions count from the start of the message. -/
inductive MarkupError
  | notOpen (tag : String) (position : Nat)
  | noneOpen (position : Nat)
  | action (complaint : String)
  | refused (complaint : String)
  deriving DecidableEq, Repr

/-- The wording of the error. -/
def MarkupError.message : MarkupError → String
  | notOpen tag position =>
    "closing tag '[" ++ tag ++ "]' at position " ++ toString position ++ " doesn't match any open tag"
  | noneOpen position => "closing tag '[/]' at position " ++ toString position ++ " has nothing to close"
  | action complaint => complaint
  | refused complaint => complaint

/-- Does the character move the cursor? -/
def movesCursor (c : Char) : Bool :=
  c == '\x07' || c == '\x08' || c == '\x0b' || c == '\x0c' || c == '\x0d'

/-- Takes out each backslash that stands before an opening bracket. -/
def withoutBracketSlash : List Char → List Char
  | '\\' :: '[' :: cs => '[' :: withoutBracketSlash cs
  | c :: cs => c :: withoutBracketSlash cs
  | [] => []

/-- Characters as they are shown. -/
def shownText (cs : List Char) : List Char :=
  (showEmoji (withoutBracketSlash cs)).filter fun c => !movesCursor c

/-- A tag that has set a style: its name as it is compared, and its parameters. -/
structure OpenTag where
  name : String
  parameters : List Char
  deriving DecidableEq, Repr

/-- Reads the parameters of a tag that is closed, if it is an action and has some. -/
def OpenTag.close (d : Display) (tag : OpenTag) : Except MarkupError Unit :=
  if tag.name.toList.head? == some '@' && !tag.parameters.isEmpty then
    match d.complaint? tag.parameters with
    | some complaint => .error (.action complaint)
    | none => .ok ()
  else .ok ()

/-- The tags that remain open after a tag; `opened` holds those before it, the last first. -/
def applyTag (d : Display) (opened : List OpenTag) (content : List Char) (position : Nat) :
    Except MarkupError (List OpenTag) :=
  let name := content.takeWhile (· != '=')
  match name with
  | '/' :: rest =>
    let style := trimEnd (rest.dropWhile isBlank)
    if style.isEmpty then
      match opened with
      | tag :: opened => do
        tag.close d
        return opened
      | [] => .error (.noneOpen position)
    else
      let isMeant := fun tag : OpenTag => tag.name == d.styleName (String.ofList style)
      match opened.find? isMeant with
      | some tag => do
        tag.close d
        return opened.eraseP isMeant
      | none => .error (.notOpen (String.ofList content) position)
  | _ =>
    let parameters := (content.dropWhile (· != '=')).drop 1
    .ok (⟨d.styleName (String.ofList name), parameters⟩ :: opened)

/-- How many characters of a message a part takes. -/
def Part.size : Part → Nat
  | plain cs => cs.length
  | tag n content => n + content.length + 2

/-- The text of the parts of a message from a position on. -/
def renderFrom (d : Display) (opened : List OpenTag) (position : Nat) :
    List Part → Except MarkupError (List Char)
  | [] => .ok []
  | part :: rest =>
    let position' := position + part.size
    match part with
    | .plain cs => (renderFrom d opened position' rest).map (shownText cs ++ ·)
    | .tag n content =>
      let before := shownText (slashes (n / 2))
      if n % 2 = 1 then
        (renderFrom d opened position' rest).map fun cs =>
          before ++ shownText ('[' :: content ++ [']']) ++ cs
      else do
        let opened ← applyTag d opened content (position + n)
        let cs ← renderFrom d opened position' rest
        return before ++ cs

/-- The text of a message. -/
def render (d : Display) (markup : String) : Except MarkupError (List Char) :=
  renderFrom d [] 0 (parts markup.toList)

end Console

end Specifiers
