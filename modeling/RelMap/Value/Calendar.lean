import RelMap.Text.Blank
import RelMap.Text.Numeral

/-!
# Dates and timestamps

Dates of the proleptic Gregorian calendar and timestamps without a time zone, with their reading and
writing in the ISO 8601 order. Reading allows blanks before each part and short parts; writing pads.
-/

namespace RelMap

open Text

structure Date where
  year : Int
  month : Nat
  day : Nat
deriving DecidableEq, Repr

/-- A date with a time of day; second 60 is a leap second. -/
structure Timestamp where
  date : Date
  hour : Nat
  minute : Nat
  second : Nat
  nanosecond : Nat
deriving DecidableEq, Repr

def isLeapYear (year : Int) : Bool :=
  year % 4 == 0 && (year % 100 != 0 || year % 400 == 0)

def daysInMonth (year : Int) (month : Nat) : Nat :=
  if month = 2 then if isLeapYear year then 29 else 28
  else if month ∈ [4, 6, 9, 11] then 30
  else 31

namespace Date

/-- The dates that exist, in the range of years that are kept. -/
def Valid (d : Date) : Prop :=
  -262143 ≤ d.year ∧ d.year ≤ 262142 ∧ 1 ≤ d.month ∧ d.month ≤ 12 ∧
    1 ≤ d.day ∧ d.day ≤ daysInMonth d.year d.month

instance (d : Date) : Decidable d.Valid := by unfold Valid; infer_instance

/-- A year: four digits at most, or any number of digits behind a sign. -/
def takeYear? (text : List Char) : Option (Int × List Char) :=
  match dropBlanks text with
  | '-' :: rest => (takeNat? rest).map fun (n, rest) => (-n, rest)
  | '+' :: rest => (takeNat? rest).map fun (n, rest) => (n, rest)
  | rest => (takeNatUpTo? 4 rest).map fun (n, rest) => (n, rest)

def takeMark? (mark : Char) (text : List Char) : Option (List Char) :=
  match dropBlanks text with
  | c :: rest => if c = mark then some rest else none
  | [] => none

def take? (text : List Char) : Option (Date × List Char) := do
  let (year, text) ← takeYear? text
  let (month, text) ← takeNatUpTo? 2 (dropBlanks (← takeMark? '-' text))
  let (day, text) ← takeNatUpTo? 2 (dropBlanks (← takeMark? '-' text))
  return (⟨year, month, day⟩, dropBlanks text)

def parse? (text : String) : Option Date := do
  let (date, rest) ← take? text.toList
  if rest = [] ∧ date.Valid then some date else none

/-- Years outside of 0 to 9999 are written with a sign. -/
def yearText (year : Int) : String :=
  if year < 0 then "-" ++ padded 4 year.natAbs
  else if year ≤ 9999 then padded 4 year.toNat
  else "+" ++ padded 4 year.toNat

def text (d : Date) : String :=
  yearText d.year ++ "-" ++ padded 2 d.month ++ "-" ++ padded 2 d.day

end Date

namespace Timestamp

def ofDate (d : Date) : Timestamp := ⟨d, 0, 0, 0, 0⟩

def Valid (t : Timestamp) : Prop :=
  t.date.Valid ∧ t.hour ≤ 23 ∧ t.minute ≤ 59 ∧ t.second ≤ 60 ∧ t.nanosecond < 1000000000

instance (t : Timestamp) : Decidable t.Valid := by unfold Valid; infer_instance

/-- A fraction of a second behind a point, to nine places; further digits are dropped. -/
def takeFraction? : List Char → Option (Nat × List Char)
  | '.' :: rest =>
    match (rest.take 9).takeWhile Char.isDigit with
    | [] => none
    | digits =>
      some (digitsValue digits * Nat.pow 10 (9 - digits.length), rest.dropWhile Char.isDigit)
  | rest => some (0, rest)

def parse? (text : String) : Option Timestamp := do
  let (date, text) ← Date.take? text.toList
  let (hour, text) ← takeNatUpTo? 2 (dropBlanks (← Date.takeMark? 'T' text))
  let (minute, text) ← takeNatUpTo? 2 (dropBlanks (← Date.takeMark? ':' text))
  let (second, text) ← takeNatUpTo? 2 (dropBlanks (← Date.takeMark? ':' text))
  let (nanosecond, rest) ← takeFraction? text
  let timestamp : Timestamp := ⟨date, hour, minute, second, nanosecond⟩
  if dropBlanks rest = [] ∧ timestamp.Valid then some timestamp else none

/-- The fraction in 3, 6 or 9 digits, the fewest that are exact, and nothing when it is zero. -/
def fractionText (nanosecond : Nat) : String :=
  if nanosecond = 0 then ""
  else if nanosecond % 1000000 = 0 then "." ++ padded 3 (nanosecond / 1000000)
  else if nanosecond % 1000 = 0 then "." ++ padded 6 (nanosecond / 1000)
  else "." ++ padded 9 nanosecond

def textWith (separator : String) (t : Timestamp) : String :=
  t.date.text ++ separator ++ padded 2 t.hour ++ ":" ++ padded 2 t.minute ++ ":" ++
    padded 2 t.second ++ fractionText t.nanosecond

def text (t : Timestamp) : String := t.textWith " "

end Timestamp

end RelMap
