import Specifiers.Text.Quoted

/-!
# Failures of reading a document

Why a document cannot be read, and where: the place is kept as the number of characters that are left,
and told as a line and a column.
-/

namespace Specifiers

namespace Toml

/-- A key: the names along the way from the top of the document to a value. -/
abbrev Key := List String

/-- A key as it is shown in a message. -/
def shownKey : Key → String
  | [name] => "(" ++ quoted name ++ ",)"
  | names => "(" ++ ", ".intercalate (names.map quoted) ++ ")"

/-- Why a document cannot be read. -/
inductive Reason
  | noStatement
  | statementGoesOn
  | declaredTwice (key : Key)
  | overwritten
  | tableHeaderOpen
  | listHeaderOpen
  | sealed (key : Key)
  | redefined (key : Key)
  | noEquals
  | noKey
  | listOpen
  | inlineTableOpen
  | repeatedName (name : String)
  | escape
  | hexDigits
  | noCharacter
  | missing (delimiter : String)
  | invalidCharacter (c : Char)
  | textOpen
  | illegalCharacter (c : Char)
  | moment
  | noValue
  deriving DecidableEq, Repr

/-- The wording of a reason. -/
def Reason.wording : Reason → String
  | noStatement => "Invalid statement"
  | statementGoesOn => "Expected newline or end of document after a statement"
  | declaredTwice key => "Cannot declare " ++ shownKey key ++ " twice"
  | overwritten => "Cannot overwrite a value"
  | tableHeaderOpen => "Expected ']' at the end of a table declaration"
  | listHeaderOpen => "Expected ']]' at the end of an array declaration"
  | sealed key => "Cannot mutate immutable namespace " ++ shownKey key
  | redefined key => "Cannot redefine namespace " ++ shownKey key
  | noEquals => "Expected '=' after a key in a key/value pair"
  | noKey => "Invalid initial character for a key part"
  | listOpen => "Unclosed array"
  | inlineTableOpen => "Unclosed inline table"
  | repeatedName name => "Duplicate inline table key " ++ quoted name
  | escape => "Unescaped '\\' in a string"
  | hexDigits => "Invalid hex value"
  | noCharacter => "Escaped character is not a Unicode scalar value"
  | missing delimiter => "Expected " ++ quoted delimiter
  | invalidCharacter c => "Found invalid character " ++ quoted c.toString
  | textOpen => "Unterminated string"
  | illegalCharacter c => "Illegal character " ++ quoted c.toString
  | moment => "Invalid date or datetime"
  | noValue => "Invalid value"

/-- A failure while reading: a reason with the number of characters that are left, or a whole number
with more digits than are read. -/
inductive Failure
  | stopped (reason : Reason) (left : Nat)
  | tooManyDigits (digits : Nat)
  deriving DecidableEq, Repr

/-- What a reader gives: a value with the characters after it, or a failure. -/
abbrev Reading (α : Type) := Except Failure (α × List Char)

/-- The failure for a reason in front of these characters. -/
def stop {α : Type} (reason : Reason) (rest : List Char) : Except Failure α :=
  .error (.stopped reason rest.length)

/-- The place in a text where so many characters are left. -/
def placeText (text : List Char) (left : Nat) : String :=
  if left = 0 then "end of document"
  else
    let before := text.take (text.length - left)
    let line := before.count '\n' + 1
    let column := (before.reverse.takeWhile (· != '\n')).length + 1
    "line " ++ toString line ++ ", column " ++ toString column

/-- How many digits a whole number has at most. -/
def digitLimit : Nat := 4300

/-- The wording of a failure to read a text. -/
def Failure.message (text : List Char) : Failure → String
  | stopped reason left => reason.wording ++ " (at " ++ placeText text left ++ ")"
  | tooManyDigits digits =>
    "Exceeds the limit (" ++ toString digitLimit ++ " digits) for integer string conversion: value has "
      ++ toString digits ++ " digits; use sys.set_int_max_str_digits() to increase the limit"

end Toml

end Specifiers
