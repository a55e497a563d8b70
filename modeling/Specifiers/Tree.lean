import Specifiers.Table

/-!
# Ordered trees

The trees that syntax comes in: the values of a data format, with the fields of an object in their
order. A *node* is an object whose field `type` is a text, its *kind*. Fields that are absent read as
null, and values without fields have none.
-/

namespace Specifiers

/-- A number as it was written: whole, or `mantissa / 10 ^ places`. -/
inductive Number
  | whole (n : Int)
  | decimal (mantissa : Int) (places : Nat)
  deriving DecidableEq, Repr, Inhabited

/-- Is the number zero? -/
def Number.isZero : Number → Bool
  | whole n => n == 0
  | decimal mantissa _ => mantissa == 0

/-- The name of the type of a number. -/
def Number.typeName : Number → String
  | whole _ => "int"
  | decimal _ _ => "float"

/-- An ordered tree. -/
inductive Tree
  | null
  | bool (b : Bool)
  | number (n : Number)
  | text (s : String)
  | list (items : List Tree)
  | object (fields : List (String × Tree))
  deriving Inhabited, Repr

namespace Tree

/-- The fields of an object; other values have none. -/
def fields : Tree → List (String × Tree)
  | object fs => fs
  | _ => []

/-- The value of a field, null when it is absent. -/
def field (t : Tree) (name : String) : Tree :=
  (t.fields.lookup name).getD null

/-- The items of a list; other values have none. -/
def items : Tree → List Tree
  | list ts => ts
  | _ => []

/-- The string of a text. -/
def text? : Tree → Option String
  | text s => some s
  | _ => none

/-- The kind of a node: its field `type`, when that is a text. -/
def kind? (t : Tree) : Option String :=
  (t.field "type").text?

/-- Is the tree a node? -/
def isNode (t : Tree) : Bool :=
  t.kind?.isSome

/-- Is the tree a node of this kind? -/
def isKind (t : Tree) (kind : String) : Bool :=
  t.kind? == some kind

/-- Does the value count as present? Null, false, zero and what is empty do not. -/
def holds : Tree → Bool
  | null => false
  | bool b => b
  | number n => !n.isZero
  | text s => s != ""
  | list items => !items.isEmpty
  | object fs => !fs.isEmpty

/-- Why a value that should be a list is none: it has no length, being of the given type, or it has a
length but no places. -/
inductive Shapeless
  | noLength (type : String)
  | noPlaces
  deriving DecidableEq, Repr

/-- The wording of the fault. -/
def Shapeless.message : Shapeless → String
  | noLength type => "object of type '" ++ type ++ "' has no len()"
  | noPlaces => "0"

/-- How many items a value has, where a list is expected. What does not hold counts as empty. -/
def length : Tree → Except Shapeless Nat
  | null => .ok 0
  | bool b => if b then .error (.noLength "bool") else .ok 0
  | number n => if n.isZero then .ok 0 else .error (.noLength n.typeName)
  | text s => .ok s.length
  | list ts => .ok ts.length
  | object fs => .ok fs.length

/-- The first item of a value that has one, where a list is expected. -/
def first : Tree → Except Shapeless Tree
  | text s => .ok (text (String.ofList (s.toList.take 1)))
  | list (t :: _) => .ok t
  | _ => .error .noPlaces

/-- A node of a kind with its other fields. -/
def node (kind : String) (fields : List (String × Tree)) : Tree :=
  object (("type", text kind) :: fields)

theorem text?_eq_some_iff {t : Tree} {s : String} : t.text? = some s ↔ t = text s := by
  cases t <;> simp [text?]

theorem isKind_iff {t : Tree} {kind : String} : t.isKind kind = true ↔ t.kind? = some kind := by
  simp [isKind]

end Tree

end Specifiers
