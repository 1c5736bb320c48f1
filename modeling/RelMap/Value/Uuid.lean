import RelMap.Text.Numeral

/-!
# Universally unique identifiers

A 128-bit number, written as 32 hexadecimal digits in groups of 8, 4, 4, 4 and 12.
-/

namespace RelMap

open Text

structure Uuid where
  bits : BitVec 128
deriving DecidableEq, Repr

namespace Uuid

def text (u : Uuid) : String :=
  let digits := hexDigits 32 u.bits.toNat
  String.ofList <| digits.take 8 ++ '-' :: (digits.drop 8).take 4 ++
    '-' :: (digits.drop 12).take 4 ++ '-' :: (digits.drop 16).take 4 ++ '-' :: digits.drop 20

def ofDigits? (digits : List Char) : Option Uuid :=
  if digits.length = 32 then (hexDigitsValue? digits).map fun n => ⟨BitVec.ofNat 128 n⟩ else none

/-- The digits of a hyphenated text, hyphens removed from the places where they belong. -/
def ofHyphenated? (text : List Char) : Option Uuid :=
  let isHyphen (i : Nat) : Bool := text[i]? = some '-'
  if text.length = 36 ∧ isHyphen 8 ∧ isHyphen 13 ∧ isHyphen 18 ∧ isHyphen 23 then
    ofDigits? (text.take 8 ++ (text.drop 9).take 4 ++ (text.drop 14).take 4 ++
      (text.drop 19).take 4 ++ text.drop 24)
  else none

/-- Reads 32 digits, or the hyphenated form as it is, in braces or behind `urn:uuid:`. -/
def parse? (text : String) : Option Uuid :=
  let chars := text.toList
  match chars.length with
  | 32 => ofDigits? chars
  | 36 => ofHyphenated? chars
  | 38 =>
    if chars.head? = some '\x7b' ∧ chars.getLast? = some '\x7d' then
      ofHyphenated? ((chars.drop 1).take 36)
    else none
  | 45 =>
    if (chars.take 9).map Char.toLower = "urn:uuid:".toList then ofHyphenated? (chars.drop 9)
    else none
  | _ => none

end Uuid

end RelMap
