/-!
# Tokens

The tokens of a source text, and the word classes that decide between identifiers and keywords.
-/

namespace Specifiers

namespace Grammar

/-- What a token is. A string keeps its value beside the characters between its quotes, and whether
it holds an octal escape; a piece of a template keeps its raw characters, whether it opens the
template and whether it closes it. -/
inductive Lexeme
  | identifier (name : String)
  | keyword (word : String)
  | punctuator (mark : String)
  | number (digits : String) (octal : Bool)
  | string (value raw : String) (octal : Bool)
  | template (raw : String) (head tail : Bool)
  | boolean (value : Bool)
  | null
  | regex (pattern flags : String)
  | endOfInput
  deriving DecidableEq, Repr, Inhabited

/-- A token with the index of its first character and the number of the line on which it ends. -/
structure Token where
  lexeme : Lexeme
  start : Nat
  line : Nat
  deriving DecidableEq, Repr, Inhabited

namespace Lexeme

/-- The spelling by which rules compare tokens of different classes: the name, word, mark or value. -/
def text : Lexeme → String
  | identifier s | keyword s | punctuator s => s
  | number digits _ => digits
  | string value _ _ => value
  | template raw _ _ => raw
  | boolean b => if b then "true" else "false"
  | null => "null"
  | regex _ _ => ""
  | endOfInput => ""

/-- Is the token an identifier (of any name)? -/
def isIdentifier : Lexeme → Bool
  | identifier _ => true
  | _ => false

/-- Is the token a string? -/
def isString : Lexeme → Bool
  | string _ _ _ => true
  | _ => false

/-- Is the token a piece of a template? -/
def isTemplate : Lexeme → Bool
  | template _ _ _ => true
  | _ => false

/-- Is the token a piece that opens a template? -/
def isTemplateHead : Lexeme → Bool
  | template _ head _ => head
  | _ => false

/-- Is the token a piece that closes a template? -/
def isTemplateEnd : Lexeme → Bool
  | template _ _ tail => tail
  | _ => false

/-- Does the token spell a name, reserved or not? -/
def isName : Lexeme → Bool
  | identifier _ | keyword _ | boolean _ | null => true
  | _ => false

/-- Is the token a literal with an octal digit sequence that strict code refuses? -/
def isOctal : Lexeme → Bool
  | number _ octal => octal
  | string _ _ octal => octal
  | _ => false

/-- Can the token be the key of a property? -/
def isPropertyKey : Lexeme → Bool
  | identifier _ | string _ _ _ | boolean _ | null | number _ _ | keyword _ => true
  | punctuator mark => mark == "["
  | _ => false

end Lexeme

/-! ## Word classes -/

/-- The words that no identifier may spell. -/
def keywords : List String :=
  ["if", "in", "do", "var", "for", "new", "try", "let", "this", "else", "case", "void", "with",
    "enum", "while", "break", "catch", "throw", "const", "yield", "class", "super", "return",
    "typeof", "delete", "switch", "export", "import", "default", "finally", "extends", "function",
    "continue", "debugger", "instanceof"]

/-- The keywords that are reserved for a purpose of their own. -/
def reservedWords : List String := ["enum", "export", "import", "super"]

/-- The words that strict code reserves besides. -/
def strictReservedWords : List String :=
  ["implements", "interface", "package", "private", "protected", "public", "static", "yield", "let"]

/-- The names that strict code must not bind. -/
def restrictedNames : List String := ["eval", "arguments"]

/-- The token that a whole word is: a keyword, a literal or an identifier. -/
def lexemeOfWord (word : String) : Lexeme :=
  if keywords.contains word then .keyword word
  else if word == "null" then .null
  else if word == "true" then .boolean true
  else if word == "false" then .boolean false
  else .identifier word

/-- The marks of the language, longer ones before their beginnings. -/
def marks : List String :=
  [">>>=", "...", "===", "!==", ">>>", "<<=", ">>=", "**=", "&&", "||", "==", "!=", "+=", "-=", "*=",
    "/=", "++", "--", "<<", ">>", "&=", "|=", "^=", "%=", "<=", ">=", "=>", "**", "(", "\x7b", ".",
    "\x7d", ")", ";", ",", "[", "]", ":", "?", "~", "<", ">", "=", "!", "+", "-", "*", "%", "&", "|", "^",
    "/"]

/-- The marks as lists of characters. -/
def markTable : List (List Char × String) := marks.map fun m => (m.toList, m)

end Grammar

end Specifiers
