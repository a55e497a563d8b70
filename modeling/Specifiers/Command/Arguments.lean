/-!
# Arguments

The options among the arguments of a command, and its operands. An option is named by two hyphens and a
word, or by one hyphen and a letter, and letters can be put together. A switch stands alone; the value
of another option is the next argument, or follows an equals sign after the word or the letter itself.
After two hyphens alone there are only operands. When operands end the options, so does the first one.
-/

namespace Specifiers

namespace Command

/-- An option: the key under which its uses are kept, its word, its letter, and whether it has a
value. -/
structure OptionSpec where
  key : String
  word : String
  letter : Option Char := none
  hasValue : Bool := false
  deriving DecidableEq, Repr

/-- The arguments of a command: the uses of options, with their values, and the operands. -/
structure Arguments where
  uses : List (String × String) := []
  operands : List String := []
  deriving DecidableEq, Repr, Inhabited

/-- What an argument says: options, the last of which may need the next argument as its value. -/
structure Reading where
  uses : List (String × String) := []
  needsValue : Option String := none
  deriving DecidableEq, Repr

/-- Reads letters after a hyphen. -/
def readLetters (specs : List OptionSpec) : List Char → Option Reading
  | [] => some {}
  | c :: cs => do
    let spec ← specs.find? fun s => s.letter == some c
    if spec.hasValue then
      if cs.isEmpty then return { needsValue := some spec.key }
      else return { uses := [(spec.key, String.ofList cs)] }
    else
      let rest ← readLetters specs cs
      return { rest with uses := (spec.key, "") :: rest.uses }

/-- Reads an argument that starts with a hyphen. -/
def readOption (specs : List OptionSpec) (arg : List Char) : Option Reading :=
  let word := String.ofList (arg.takeWhile (· != '='))
  let value? := match arg.dropWhile (· != '=') with
    | _ :: value => some (String.ofList value)
    | [] => none
  match specs.find? fun s => s.word == word with
  | some spec =>
    match spec.hasValue, value? with
    | true, some value => some { uses := [(spec.key, value)] }
    | true, none => some { needsValue := some spec.key }
    | false, some _ => none
    | false, none => some { uses := [(spec.key, "")] }
  | none => if ['-', '-'].isPrefixOf arg then none else readLetters specs (arg.drop 1)

/-- Adds uses of options in front of others. -/
def Arguments.withUses (uses : List (String × String)) (a : Arguments) : Arguments :=
  { a with uses := uses ++ a.uses }

/-- Reads arguments. -/
def readArguments (specs : List OptionSpec) (operandsEnd : Bool) : List String → Option Arguments
  | [] => some {}
  | arg :: rest =>
    let cs := arg.toList
    if arg == "--" then some { operands := rest }
    else if cs.head? == some '-' && 1 < cs.length then
      match readOption specs cs with
      | none => none
      | some { uses, needsValue := none } =>
        (readArguments specs operandsEnd rest).map (·.withUses uses)
      | some { uses, needsValue := some key } =>
        match rest with
        | value :: rest =>
          (readArguments specs operandsEnd rest).map (·.withUses (uses ++ [(key, value)]))
        | [] => none
    else if operandsEnd then some { operands := arg :: rest }
    else (readArguments specs operandsEnd rest).map fun a => { a with operands := arg :: a.operands }

namespace Arguments

/-- Is an option used? -/
def has (a : Arguments) (key : String) : Bool := a.uses.any (·.1 == key)

/-- The values of the uses of an option. -/
def values (a : Arguments) (key : String) : List String :=
  (a.uses.filter (·.1 == key)).map (·.2)

/-- The value of the last use of an option, or its default. -/
def value (a : Arguments) (key dflt : String) : String := (a.values key).getLast?.getD dflt

/-- Which of two options is used last: `true` for the first one. -/
def lastOf (a : Arguments) (yes no : String) : Option Bool :=
  (a.uses.filter fun u => u.1 == yes || u.1 == no).getLast?.map (·.1 == yes)

end Arguments

end Command

end Specifiers
