import Specifiers.Binary64
import Specifiers.Table

/-!
# Configuration values

What a configuration is made of: plain values, lists and tables.
-/

namespace Specifiers

/-- The kinds of moments. -/
inductive MomentKind
  | dateTime
  | date
  | time
  deriving DecidableEq, Repr, Inhabited

/-- A configuration value. A moment is kept as it was written. -/
inductive Value
  | null
  | bool (b : Bool)
  | integer (n : Int)
  | float (x : Binary64)
  | text (s : String)
  | moment (kind : MomentKind) (written : String)
  | list (items : List Value)
  | table (entries : List (String × Value))
  deriving Repr, Inhabited

namespace Value

/-- The name of the type of a value. -/
def typeName : Value → String
  | null => "NoneType"
  | bool _ => "bool"
  | integer _ => "int"
  | float _ => "float"
  | text _ => "str"
  | moment .dateTime _ => "datetime.datetime"
  | moment .date _ => "datetime.date"
  | moment .time _ => "datetime.time"
  | list _ => "list"
  | table _ => "dict"

/-- The entries of a table. -/
def table? : Value → Option (Table Value)
  | table es => some es
  | _ => none

/-! ## Equality -/

mutual

/-- Are two values the same? -/
def same : Value → Value → Bool
  | null, null => true
  | bool b, bool b' => b == b'
  | integer n, integer n' => n == n'
  | float x, float x' => x == x'
  | text s, text s' => s == s'
  | moment kind written, moment kind' written' => kind == kind' && written == written'
  | list items, list items' => sameItems items items'
  | table es, table es' => sameEntries es es'
  | _, _ => false

/-- Are two lists of values the same? -/
def sameItems : List Value → List Value → Bool
  | [], [] => true
  | v :: vs, w :: ws => same v w && sameItems vs ws
  | _, _ => false

/-- Are the entries of two tables the same, in the same order? -/
def sameEntries : List (String × Value) → List (String × Value) → Bool
  | [], [] => true
  | (key, v) :: es, (key', w) :: fs => (key == key' && same v w) && sameEntries es fs
  | _, _ => false

end

mutual

/-- Values are compared part by part, one kind with the same kind. -/
theorem same_iff : ∀ v w : Value, same v w = true ↔ v = w
  | null, w => by cases w <;> simp [same]
  | bool _, w => by cases w <;> simp [same]
  | integer _, w => by cases w <;> simp [same]
  | float _, w => by cases w <;> simp [same]
  | text _, w => by cases w <;> simp [same]
  | moment _ _, w => by cases w <;> simp [same]
  | list items, w => by cases w <;> simp [same, sameItems_iff items]
  | table es, w => by cases w <;> simp [same, sameEntries_iff es]

theorem sameItems_iff : ∀ vs ws : List Value, sameItems vs ws = true ↔ vs = ws
  | [], ws => by cases ws <;> simp [sameItems]
  | v :: vs, ws => by cases ws <;> simp [sameItems, same_iff v, sameItems_iff vs]

theorem sameEntries_iff : ∀ es fs : List (String × Value), sameEntries es fs = true ↔ es = fs
  | [], fs => by cases fs <;> simp [sameEntries]
  | (key, v) :: es, fs => by
    cases fs <;> simp [sameEntries, same_iff v, sameEntries_iff es, Prod.ext_iff]

end

instance : DecidableEq Value := fun v w => decidable_of_iff _ (same_iff v w)

end Value

end Specifiers
