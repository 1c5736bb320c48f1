import RelMap.Document.Basic
import RelMap.Number.Shortest
import RelMap.Text.Numeral

/-!
# Documents as JSON

A document is written as JSON without blanks and read back with or without them. A number that has
neither a fraction nor an exponent is an integer, every other number a decimal; so is minus zero,
since no integer has that sign. A decimal is written with a fraction, so that it is read back as
one.
-/

namespace RelMap.Document

/-! ## Writing -/

/-- The characters that are written behind a backslash, each with the letter that stands for it. -/
def escapes : List (Char × Char) :=
  [('"', '"'), ('\\', '\\'), ('\n', 'n'), ('\r', 'r'), ('\t', 't'), ('\x08', 'b'), ('\x0c', 'f')]

def escape (c : Char) : List Char :=
  match escapes.lookup c with
  | some letter => ['\\', letter]
  | none => if c.toNat < 32 then '\\' :: 'u' :: Text.hexDigits 4 c.toNat else [c]

def quoted (text : String) : String :=
  String.ofList ('"' :: text.toList.flatMap escape ++ ['"'])

/-- JSON has no words for infinity and not-a-number; null stands for them. -/
def decimalJson (x : Double) : String :=
  if x.isNaN || x.isInfinite then "null"
  else if x.text.toList.contains '.' then x.text
  else x.text ++ ".0"

def integerJson (n : Int) : String :=
  String.ofList (if n < 0 then '-' :: Nat.toDigits 10 n.natAbs else Nat.toDigits 10 n.natAbs)

mutual

def json : Document → String
  | null => "null"
  | bool true => "true"
  | bool false => "false"
  | integer value => integerJson value
  | decimal value => decimalJson value
  | string value => quoted value
  | array items => "[" ++ ",".intercalate (itemsJson items) ++ "]"
  | object members => "\x7b" ++ ",".intercalate (membersJson members) ++ "\x7d"

def itemsJson : List Document → List String
  | [] => []
  | item :: items => item.json :: itemsJson items

def membersJson : List (String × Document) → List String
  | [] => []
  | (key, value) :: members => (quoted key ++ ":" ++ value.json) :: membersJson members

end

/-! ## Reading -/

def skipBlanks (text : List Char) : List Char := text.dropWhile [' ', '\t', '\n', '\r'].contains

def unescape? (letter : Char) : Option Char :=
  if letter = '/' then some '/' else (escapes.find? (·.2 == letter)).map (·.1)

/-- The character of a surrogate pair. -/
def ofSurrogates? (high low : Nat) : Option Char :=
  if 0xD800 ≤ high ∧ high < 0xDC00 ∧ 0xDC00 ≤ low ∧ low < 0xE000 then
    some (Char.ofNat (0x10000 + (high - 0xD800) * 0x400 + (low - 0xDC00)))
  else none

/-- A string behind its opening quote, and the text behind its closing one. -/
def readString? : List Char → Option (List Char × List Char)
  | '"' :: rest => some ([], rest)
  | '\\' :: 'u' :: a :: b :: c :: d :: '\\' :: 'u' :: e :: f :: g :: h :: rest => do
    let high ← Text.hexDigitsValue? [a, b, c, d]
    let low ← Text.hexDigitsValue? [e, f, g, h]
    match ofSurrogates? high low with
    | some pair => (readString? rest).map fun (cs, rest) => (pair :: cs, rest)
    | none =>
      (readString? ('\\' :: 'u' :: e :: f :: g :: h :: rest)).map fun (cs, rest) =>
        (Char.ofNat high :: cs, rest)
  | '\\' :: 'u' :: a :: b :: c :: d :: rest => do
    let unit ← Text.hexDigitsValue? [a, b, c, d]
    (readString? rest).map fun (cs, rest) => (Char.ofNat unit :: cs, rest)
  | '\\' :: letter :: rest => do
    let c ← unescape? letter
    (readString? rest).map fun (cs, rest) => (c :: cs, rest)
  | c :: rest => (readString? rest).map fun (cs, rest) => (c :: cs, rest)
  | [] => none

def exponent? : List Char → Option Int
  | '-' :: digits => (Text.takeNat? digits).map fun (n, _) => -n
  | '+' :: digits => (Text.takeNat? digits).map fun (n, _) => n
  | digits => (Text.takeNat? digits).map fun (n, _) => n

def unsigned? (numeral : List Char) : Option (Nat ⊕ Decimal) := do
  let isMark (c : Char) : Bool := c == 'e' || c == 'E'
  let mantissa := numeral.takeWhile (!isMark ·)
  let whole := mantissa.takeWhile Char.isDigit
  let places := (mantissa.dropWhile Char.isDigit).drop 1
  let (value, _) ← Text.takeNat? (whole ++ places)
  match numeral.dropWhile (!isMark ·) with
  | [] => return if places.isEmpty then .inl value else .inr ⟨value, -places.length⟩
  | _ :: digits => return .inr ⟨value, (← exponent? digits) - places.length⟩

def readNumber? (text : List Char) : Option (Document × List Char) := do
  let isPart (c : Char) : Bool := c.isDigit || ['+', '-', '.', 'e', 'E'].contains c
  let rest := text.dropWhile isPart
  match text.takeWhile isPart with
  | '-' :: numeral => match ← unsigned? numeral with
    | .inl 0 => return (decimal (Double.ofInt 0).negate, rest)
    | .inl n => return (integer (-n), rest)
    | .inr d => return (decimal d.nearest.negate, rest)
  | numeral => match ← unsigned? numeral with
    | .inl n => return (integer n, rest)
    | .inr d => return (decimal d.nearest, rest)

mutual

def readValue? : Nat → List Char → Option (Document × List Char)
  | 0, _ => none
  | fuel + 1, text =>
    match skipBlanks text with
    | '"' :: rest => (readString? rest).map fun (cs, rest) => (string (String.ofList cs), rest)
    | '[' :: rest =>
      match skipBlanks rest with
      | ']' :: rest => some (array [], rest)
      | rest => (readItems? fuel rest).map fun (items, rest) => (array items, rest)
    | '\x7b' :: rest =>
      match skipBlanks rest with
      | '\x7d' :: rest => some (object [], rest)
      | rest => (readMembers? fuel rest).map fun (members, rest) => (object members, rest)
    | 'n' :: 'u' :: 'l' :: 'l' :: rest => some (null, rest)
    | 't' :: 'r' :: 'u' :: 'e' :: rest => some (bool true, rest)
    | 'f' :: 'a' :: 'l' :: 's' :: 'e' :: rest => some (bool false, rest)
    | rest => readNumber? rest

def readItems? : Nat → List Char → Option (List Document × List Char)
  | 0, _ => none
  | fuel + 1, text => do
    let (item, rest) ← readValue? fuel text
    match skipBlanks rest with
    | ',' :: rest => (readItems? fuel rest).map fun (items, rest) => (item :: items, rest)
    | ']' :: rest => some ([item], rest)
    | _ => none

def readMembers? : Nat → List Char → Option (List (String × Document) × List Char)
  | 0, _ => none
  | fuel + 1, text =>
    match skipBlanks text with
    | '"' :: rest => do
      let (key, rest) ← readString? rest
      match skipBlanks rest with
      | ':' :: rest =>
        let (value, rest) ← readValue? fuel rest
        let member := (String.ofList key, value)
        match skipBlanks rest with
        | ',' :: rest =>
          (readMembers? fuel rest).map fun (members, rest) => (member :: members, rest)
        | '\x7d' :: rest => some ([member], rest)
        | _ => none
      | _ => none
    | _ => none

end

/-- The document of a JSON text. Every second step takes a character away, so the fuel suffices. -/
def ofJson? (text : String) : Option Document :=
  match readValue? (2 * text.length + 2) text.toList with
  | some (d, rest) => if (skipBlanks rest).isEmpty then some d else none
  | none => none

end RelMap.Document
