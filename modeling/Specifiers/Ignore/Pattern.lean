import Specifiers.Ignore.Glob
import Specifiers.Text.Blank
import Specifiers.Text.Quoted
import Specifiers.Text.Split

/-!
# Patterns

A pattern tells which paths below a root it means. Its segments are matched in order; `**` stands for
any number of segments; a pattern of one segment applies at any depth. A pattern that ends with a slash
means what lies in such a directory, and not the directory itself. A match says whether it is made
through a directory that contains the path, or with the path itself.
-/

namespace Specifiers

namespace Ignore

/-- A step through a path, up to or after a slash. -/
inductive Step
  /-- Any directories at the start of the path, or none. -/
  | anyLeading
  /-- Any segments after a slash, or none. -/
  | anyInner
  | slash
  /-- A whole segment. -/
  | segment
  | tokens (ts : List Token)
  deriving DecidableEq, Repr

/-- What has to follow the steps. -/
inductive Tail
  /-- Something in a directory. -/
  | inDirectory
  /-- Something below, which counts as the path itself. -/
  | below
  /-- The end of the path, or something in a directory. -/
  | whole
  deriving DecidableEq, Repr

/-- How a path is met: through a directory that contains it, or itself. -/
inductive Hit
  | directory
  | file
  deriving DecidableEq, Repr

/-- How a path is matched: by its steps from the start, by any slash in it, or always. -/
inductive Body
  | steps (ss : List Step) (tail : Tail)
  | anySlash (hit : Hit)
  | anything
  deriving DecidableEq, Repr

/-- A pattern: whether it selects or, when negated, frees the paths that it means. -/
structure Pattern where
  selects : Bool
  body : Body
  deriving DecidableEq, Repr

/-- Why a line is no pattern. -/
inductive PatternError
  | invalid (line : String)
  | badRange (first last : Char)
  deriving DecidableEq, Repr

/-- The wording of the complaint about a line. -/
def PatternError.message : PatternError → String
  | invalid line => "Invalid git pattern: " ++ quoted line
  | badRange a b => "bad character range " ++ String.ofList [a, '-', b]

/-! ## Reading -/

/-- A line without the blanks at its end, unless the last of them is escaped. -/
def trimmed (line : List Char) : List Char :=
  match line.reverse with
  | ' ' :: '\\' :: _ => line
  | _ => trimEnd line

/-- The segment that stands for any number of segments. -/
def anyDepth : List Char := ['*', '*']

/-- The segments of a pattern with its root made explicit: a slash at the start ties it to the root,
and a single segment applies at any depth. -/
def anchored (segments : List (List Char)) : List (List Char) :=
  match segments with
  | [] :: rest => rest
  | [s] | [s, []] => if s == anyDepth then segments else anyDepth :: segments
  | _ => segments

/-- The segments of a pattern with an empty last one read as anything below. -/
def closed (segments : List (List Char)) : List (List Char) :=
  match segments.reverse with
  | [] :: before => (anyDepth :: before).reverse
  | _ => segments

/-- Segments with each run of `**` made one. -/
def collapsed : List (List Char) → List (List Char)
  | s :: t :: rest =>
    if s == anyDepth && t == anyDepth then collapsed (t :: rest) else s :: collapsed (t :: rest)
  | rest => rest

/-- The steps for segments after the first; each is reached over a slash. -/
def innerSteps (isDirectory : Bool) : List (List Char) → Except GlobFault (List Step × Tail)
  | [] => .ok ([], .whole)
  | [s] =>
    if s == anyDepth then .ok ([], if isDirectory then .inDirectory else .below)
    else if s == ['*'] then .ok ([.slash, .segment], .whole)
    else (tokens s).map fun ts => ([.slash, .tokens ts], .whole)
  | s :: rest => do
    let here ← if s == anyDepth then pure [Step.anyInner]
      else if s == ['*'] then pure [.slash, .segment]
      else (tokens s).map fun ts => [.slash, .tokens ts]
    let (steps, tail) ← innerSteps isDirectory rest
    return (here ++ steps, tail)

/-- The step of a first segment. -/
def firstStep (s : List Char) : Except GlobFault Step :=
  if s == anyDepth then .ok .anyLeading
  else if s == ['*'] then .ok .segment
  else (tokens s).map .tokens

/-- The patterns that need no steps: `**`, which can be a directory, `**/*` and `**/*/**`. -/
def stepless? (isDirectory : Bool) (segments : List (List Char)) : Option Body :=
  let hit := if isDirectory then Hit.directory else .file
  if segments == [anyDepth] then some (if isDirectory then .anySlash hit else .anything)
  else if segments == [anyDepth, ['*']] then some .anything
  else if segments == [anyDepth, ['*'], anyDepth] then some (.anySlash hit)
  else none

/-- How the segments of a pattern are matched. No slash stands between any leading directories and the
segment after them. -/
def bodyOf (isDirectory : Bool) (segments : List (List Char)) : Except GlobFault Body := do
  if let some body := stepless? isDirectory segments then return body
  match segments with
  | [] => return .anything
  | s :: rest =>
    let first ← firstStep s
    let (steps, tail) ← innerSteps isDirectory rest
    let steps := match first, steps with
      | .anyLeading, .slash :: steps => steps
      | _, _ => steps
    return .steps (first :: steps) tail

/-- The pattern of a line; none when the line is empty, a comment or has a set that does not end. -/
def Pattern.ofLine (line : List Char) : Except PatternError (Option Pattern) :=
  let text := trimmed line
  let invalid := PatternError.invalid (String.ofList line)
  if text.isEmpty || text.head? == some '#' || text == ['/'] then .ok none
  else
    let negated := text.head? == some '!'
    let segments := Split.pieces '/' (if negated then text.drop 1 else text)
    let isDirectory := segments.getLast? == some []
    let segments := anchored segments
    if segments.isEmpty then .error invalid
    else match bodyOf isDirectory (collapsed (closed segments)) with
      | .ok body => .ok (some ⟨!negated, body⟩)
      | .error .danglingBackslash => .error invalid
      | .error .unclosedSet => .ok none
      | .error (.badRange a b) => .error (.badRange a b)

/-! ## Matching -/

/-- The rests of a text after each of its slashes that something other than a line feed stands before,
and nothing but; the shortest rest first. `start` says whether nothing stands before yet. -/
def afterSlashes (start : Bool) : List Char → List (List Char)
  | [] => []
  | c :: cs =>
    if c == '/' then afterSlashes false cs ++ (if start then [] else [cs])
    else if c == '\n' then []
    else afterSlashes false cs

/-- The rests of a text that a step can leave. -/
def Step.rests (s : Step) (text : List Char) : List (List Char) :=
  match s with
  | anyLeading => afterSlashes true text ++ [text]
  | anyInner =>
    match text with
    | '/' :: cs => (runRests (· != '\n') cs).filter (·.length < cs.length) ++ [text]
    | _ => [text]
  | slash =>
    match text with
    | '/' :: cs => [cs]
    | _ => []
  | segment => (runRests (· != '/') text).filter (·.length < text.length)
  | tokens ts => ts.foldl (fun rests t => rests.flatMap t.rests) [text]

/-- How what is left of a path is met. -/
def Tail.hit? (tail : Tail) (rest : List Char) : Option Hit :=
  match tail, rest with
  | inDirectory, '/' :: _ | whole, '/' :: _ => some .directory
  | below, '/' :: _ => some .file
  | whole, [] | whole, ['\n'] => some .file
  | _, _ => none

/-- How steps and what follows them meet a path. -/
def stepsHit? (tail : Tail) : List Step → List Char → Option Hit
  | [], text => tail.hit? text
  | s :: ss, text => (s.rests text).findSome? (stepsHit? tail ss)

/-- How a pattern meets a path. -/
def Body.hit? (body : Body) (path : List Char) : Option Hit :=
  match body with
  | steps ss tail => stepsHit? tail ss path
  | anySlash hit => if path.contains '/' then some hit else none
  | anything => if path.any (· != '\n') then some .file else none

end Ignore

end Specifiers
