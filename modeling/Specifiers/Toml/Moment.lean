import Specifiers.Text.Digit
import Specifiers.Value

/-!
# Moments in documents

A date, a time of day, or both, then possibly with an offset. A date must be one of the calendar, in a
year from 1 to 9999; the parts of a time are in their ranges by the way they are written.
-/

namespace Specifiers

namespace Toml

/-- The number that two digits spell, when it is at most a given one. -/
def twoDigits? (most : Nat) : List Char → Option (Nat × List Char)
  | a :: b :: cs =>
    let n := Digit.number 10 [a, b]
    if a.isDigit && b.isDigit && n ≤ most then some (n, cs) else none
  | _ => none

/-- Passes over a character. -/
def skip? (c : Char) : List Char → Option (List Char)
  | d :: cs => if d == c then some cs else none
  | [] => none

/-- Passes over the fraction of a second, if there is one. -/
def afterFraction (cs : List Char) : List Char :=
  match cs with
  | '.' :: d :: rest => if d.isDigit then rest.dropWhile Char.isDigit else cs
  | _ => cs

/-- Passes over a time of day. -/
def afterTime? (cs : List Char) : Option (List Char) := do
  let (_, cs) ← twoDigits? 23 cs
  let (_, cs) ← twoDigits? 59 (← skip? ':' cs)
  let (_, cs) ← twoDigits? 59 (← skip? ':' cs)
  return afterFraction cs

/-- Passes over the sign of an offset, its hours and its minutes. -/
def afterOffset? (cs : List Char) : Option (List Char) := do
  let cs ← (skip? '+' cs).or (skip? '-' cs)
  let (_, cs) ← twoDigits? 23 cs
  let (_, cs) ← twoDigits? 59 (← skip? ':' cs)
  return cs

/-- Passes over an offset, if there is one. -/
def afterZone (cs : List Char) : List Char :=
  match cs with
  | 'Z' :: rest => rest
  | 'z' :: rest => rest
  | _ => (afterOffset? cs).getD cs

/-- The year, the month and the day of a date. -/
def date? (cs : List Char) : Option ((Nat × Nat × Nat) × List Char) := do
  let (century, cs) ← twoDigits? 99 cs
  let (year, cs) ← twoDigits? 99 cs
  let (month, cs) ← twoDigits? 12 (← skip? '-' cs)
  let (day, cs) ← twoDigits? 31 (← skip? '-' cs)
  if month = 0 || day = 0 then none else return ((100 * century + year, month, day), cs)

/-- Has the year a leap day? -/
def isLeap (year : Nat) : Bool := year % 4 == 0 && (year % 100 != 0 || year % 400 == 0)

/-- How many days a month has. -/
def daysIn (year month : Nat) : Nat :=
  if month = 2 then (if isLeap year then 29 else 28)
  else if month = 4 || month = 6 || month = 9 || month = 11 then 30
  else 31

/-- Is the date one of the calendar? -/
def isDate (year month day : Nat) : Bool := 1 ≤ year && day ≤ daysIn year month

/-- Passes over a time of day after a date, with what separates them. -/
def afterDateTime? : List Char → Option (List Char)
  | c :: cs => if c == 'T' || c == 't' || c == ' ' then (afterTime? cs).map afterZone else none
  | [] => none

/-- The characters before a rest. -/
def written (cs rest : List Char) : String := String.ofList (cs.take (cs.length - rest.length))

/-- A moment that starts with a date; none inside when the calendar does not have the date. -/
def dated? (cs : List Char) : Option (Option Value × List Char) :=
  (date? cs).map fun ((year, month, day), afterDate) =>
    let valid := isDate year month day
    match afterDateTime? afterDate with
    | some rest => (if valid then some (.moment .dateTime (written cs rest)) else none, rest)
    | none => (if valid then some (.moment .date (written cs afterDate)) else none, afterDate)

/-- A time of day. -/
def time? (cs : List Char) : Option (Value × List Char) :=
  (afterTime? cs).map fun rest => (.moment .time (written cs rest), rest)

end Toml

end Specifiers
