import Specifiers.Settings
import Specifiers.Text.Lowercase
import Specifiers.Value

/-!
# Settings from tables

A table spells settings in two sections. What is not set has its default, and names without a meaning
are passed over. The values of a section are checked one by one, and all that is wrong with them is
told together, in the order of the fields; the filter comes before the scan. Written back as a table,
settings spell themselves.
-/

namespace Specifiers

namespace Settings

/-! ## Faults -/

/-- What is wrong with a value. -/
inductive Fault
  | notText
  | notList
  | notTruth
  | unknownTruth
  deriving DecidableEq, Repr

/-- The name of a fault. -/
def Fault.name : Fault → String
  | notText => "string_type"
  | notList => "list_type"
  | notTruth => "bool_type"
  | unknownTruth => "bool_parsing"

/-- The wording of a fault. -/
def Fault.wording : Fault → String
  | notText => "Input should be a valid string"
  | notList => "Input should be a valid list"
  | notTruth => "Input should be a valid boolean"
  | unknownTruth => "Input should be a valid boolean, unable to interpret input"

/-- A fault of the value of a field, or of the item at an index of it. -/
structure FieldFault where
  field : String
  index : Option Nat := none
  fault : Fault
  deriving DecidableEq, Repr

/-- A value that has been checked, or all its faults. -/
abbrev Checked (α : Type) := Except (List FieldFault) α

/-- The faults of a value that has been checked. -/
def faults {α : Type} : Checked α → List FieldFault
  | .ok _ => []
  | .error fs => fs

/-! ## Values -/

/-- The texts among the items of a list, from an index on. -/
def checkItems (field : String) (index : Nat) : List Value → Checked (List String)
  | [] => .ok []
  | item :: items =>
    match item, checkItems field (index + 1) items with
    | .text s, .ok ss => .ok (s :: ss)
    | .text _, .error fs => .error fs
    | _, rest => .error ({ field, index := some index, fault := .notText } :: faults rest)

/-- A value that should be a list of texts. -/
def checkTexts (field : String) : Value → Checked (List String)
  | .list items => checkItems field 0 items
  | _ => .error [{ field, fault := .notList }]

/-- A value that should be a text. -/
def checkText (field : String) : Value → Checked String
  | .text s => .ok s
  | _ => .error [{ field, fault := .notText }]

/-- The words for the truth values, without regard to case. -/
def truthWords : List (String × Bool) :=
  [("0", false), ("off", false), ("f", false), ("false", false), ("n", false), ("no", false),
    ("1", true), ("on", true), ("t", true), ("true", true), ("y", true), ("yes", true)]

/-- A word as it is compared with those for truth values. -/
def foldWord (s : String) : String := String.ofList (s.toList.map Char.toLower)

/-- The first whole number above those of 64 bits. -/
def integerLimit : Int := 0x8000000000000000

/-- The truth value of a whole number of 64 bits. Numbers beyond that stand for none. -/
def truthOfInteger (n : Int) : Except Fault Bool :=
  if n = 0 then .ok false
  else if n = 1 then .ok true
  else if -integerLimit ≤ n ∧ n < integerLimit then .error .unknownTruth
  else .error .notTruth

/-- The truth value of a floating point number. One that is not whole, and the least of 64 bits, stand
for none. -/
def truthOfFloat (x : Binary64) : Except Fault Bool :=
  match x.toInt? with
  | some n => if n = -integerLimit then .error .notTruth else truthOfInteger n
  | none => .error .notTruth

/-- The truth value that a value stands for. -/
def truthOf : Value → Except Fault Bool
  | .bool b => .ok b
  | .integer n => truthOfInteger n
  | .float x => truthOfFloat x
  | .text s =>
    match truthWords.lookup (foldWord s) with
    | some b => .ok b
    | none => .error .unknownTruth
  | _ => .error .notTruth

/-- A value that should stand for a truth value. -/
def checkTruth (field : String) (v : Value) : Checked Bool :=
  (truthOf v).mapError fun fault => [{ field, fault }]

/-- The value of a field of a table, or its default. -/
def checkField {α : Type} (check : String → Value → Checked α) (dflt : α) (t : Table Value)
    (field : String) : Checked α :=
  match t.find? field with
  | some v => check field v
  | none => .ok dflt

/-! ## Sections -/

/-- A suffix in lower case, with a dot in front. -/
def normalizeExtension (s : String) : String :=
  if s.toList.head? == some '.' then lowercase s else "." ++ lowercase s

/-- The settings of the filter that a table spells. -/
def checkFilter (t : Table Value) : Checked FilterSettings :=
  let exclude := checkField checkTexts {} t "exclude"
  let keep := checkField checkTexts {} t "include"
  match exclude, keep with
  | .ok exclude, .ok keep => .ok { exclude, keep }
  | _, _ => .error (faults exclude ++ faults keep)

/-- The settings of the scan that a table spells. -/
def checkScan (t : Table Value) : Checked ScanSettings :=
  let dflt : ScanSettings := {}
  let extensions := (checkField checkTexts dflt.extensions t "extensions").map
    (·.map normalizeExtension)
  let encoding := checkField checkText dflt.encoding t "encoding"
  let failFast := checkField checkTruth dflt.failFast t "fail_fast"
  match extensions, encoding, failFast with
  | .ok extensions, .ok encoding, .ok failFast => .ok { extensions, encoding, failFast }
  | _, _, _ => .error (faults extensions ++ faults encoding ++ faults failFast)

/-- The sections of a table of settings. -/
inductive Part
  | filter
  | scan
  deriving DecidableEq, Repr

/-- The name of a section. -/
def Part.name : Part → String
  | filter => "filter"
  | scan => "scan"

/-- What a section is read into, as messages call it. -/
def Part.model : Part → String
  | filter => "jsreq_cli.config.models.FilterConfig()"
  | scan => "jsreq_cli.config.models.ScanConfig()"

/-- Why a table spells no settings: a section is no table, or it has faults. -/
inductive Invalid
  | notTable (part : Part) (typeName : String)
  | faulty (faults : List FieldFault)
  deriving DecidableEq, Repr

/-- Where a fault is, and what it is. -/
def FieldFault.message (f : FieldFault) : String :=
  let place := match f.index with
    | some i => f.field ++ "." ++ toString i
    | none => f.field
  place ++ ": " ++ f.fault.wording

/-- The wording of what is wrong with a table. -/
def Invalid.message : Invalid → String
  | notTable part typeName => part.model ++ " argument after ** must be a mapping, not " ++ typeName
  | faulty faults => "; ".intercalate (faults.map FieldFault.message)

/-- A section of a table. -/
def sectionOf (part : Part) (t : Table Value) : Except Invalid (Table Value) :=
  match t.find? part.name with
  | some (.table entries) => .ok entries
  | some v => .error (.notTable part v.typeName)
  | none => .ok []

/-- The settings that a table spells. -/
def ofTable (t : Table Value) : Except Invalid Settings := do
  let filter ← (checkFilter (← sectionOf .filter t)).mapError .faulty
  let scan ← (checkScan (← sectionOf .scan t)).mapError .faulty
  return { filter, scan }

/-- The list of texts as a value. -/
def textsValue (ss : List String) : Value := .list (ss.map .text)

/-- The table that spells settings. -/
def toTable (s : Settings) : Table Value :=
  [(Part.filter.name, .table
      [("exclude", textsValue s.filter.exclude), ("include", textsValue s.filter.keep)]),
    (Part.scan.name, .table
      [("extensions", textsValue s.scan.extensions), ("encoding", .text s.scan.encoding),
        ("fail_fast", .bool s.scan.failFast)])]

end Settings

end Specifiers
