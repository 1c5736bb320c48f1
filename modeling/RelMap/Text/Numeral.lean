/-!
# Numerals

Runs of decimal digits at the head of a text, and hexadecimal digits.
-/

namespace RelMap.Text

def digitsValue (digits : List Char) : Nat :=
  digits.foldl (fun value c => value * 10 + (c.toNat - '0'.toNat)) 0

/-- A number of at least one decimal digit at the head of the text, and the text behind it. -/
def takeNat? (text : List Char) : Option (Nat × List Char) :=
  match text.takeWhile Char.isDigit with
  | [] => none
  | digits => some (digitsValue digits, text.dropWhile Char.isDigit)

/-- A number of one to `width` decimal digits at the head of the text, and the text behind it. -/
def takeNatUpTo? (width : Nat) (text : List Char) : Option (Nat × List Char) :=
  match (text.take width).takeWhile Char.isDigit with
  | [] => none
  | digits => some (digitsValue digits, text.drop digits.length)

def padded (width n : Nat) : String :=
  let digits := Nat.toDigits 10 n
  String.ofList (List.replicate (width - digits.length) '0' ++ digits)

def hexValue? (c : Char) : Option Nat :=
  if '0' ≤ c ∧ c ≤ '9' then some (c.toNat - '0'.toNat)
  else if 'a' ≤ c ∧ c ≤ 'f' then some (c.toNat - 'a'.toNat + 10)
  else if 'A' ≤ c ∧ c ≤ 'F' then some (c.toNat - 'A'.toNat + 10)
  else none

/-- The value of a string of hexadecimal digits, or nothing if another character is in it. -/
def hexDigitsValue? (digits : List Char) : Option Nat :=
  digits.foldlM (fun value c => (hexValue? c).map (value * 16 + ·)) 0

def hexDigits : Nat → Nat → List Char
  | 0, _ => []
  | width + 1, n => hexDigits width (n / 16) ++ [Nat.digitChar (n % 16)]

end RelMap.Text
