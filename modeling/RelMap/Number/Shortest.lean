import RelMap.Number.Double

/-!
# Shortest decimals

A finite double is written with the fewest decimal digits that read back as the same double; of two
such decimals the nearer one is taken, and the upper one when both are equally near. The number is
written out in full, never with an exponent, and without a point when it is an integer.
-/

namespace RelMap

structure Decimal where
  digits : Nat
  exponent : Int
deriving DecidableEq, Repr

namespace Decimal

/-- Moves trailing zeros of the digits into the exponent; the fuel bounds the number of digits. -/
def stripZeros : Nat → Decimal → Decimal
  | 0, d => d
  | fuel + 1, d =>
    if d.digits ≠ 0 && d.digits % 10 = 0 then stripZeros fuel ⟨d.digits / 10, d.exponent + 1⟩
    else d

/-- Positional text, with a point only where digits follow it. -/
def positional (d : Decimal) : List Char :=
  let text := Nat.toDigits 10 d.digits
  if 0 ≤ d.exponent then text ++ List.replicate d.exponent.toNat '0'
  else
    let places := (-d.exponent).toNat
    if places < text.length then
      text.take (text.length - places) ++ '.' :: text.drop (text.length - places)
    else '0' :: '.' :: (List.replicate (places - text.length) '0' ++ text)

def nearest (d : Decimal) : Double :=
  let num := d.digits * Nat.pow 10 d.exponent.toNat
  ⟨UInt64.ofNat (Double.quotientBits num (Nat.pow 10 (-d.exponent).toNat))⟩

end Decimal

namespace Double

/-- The interval of numbers that round to a magnitude, as numerators over a common denominator. -/
structure Interval where
  low : Nat
  value : Nat
  high : Nat
  den : Nat
  closed : Bool
deriving DecidableEq, Repr

/-- The rounding interval of the magnitude of a finite double. Its ends are half a gap away, and the
lower gap is half as wide at a power of two; the ends belong to it when the significand is even. -/
def interval (x : Double) : Interval :=
  let m := x.significand
  let q := x.exponent - 2
  let below := if x.fraction = 0 ∧ 1 < x.exponentField then 1 else 2
  let scaled (n : Nat) : Nat := n <<< q.toNat
  ⟨scaled (4 * m - below), scaled (4 * m), scaled (4 * m + 2), 1 <<< (-q).toNat, m % 2 == 0⟩

def Interval.inUnits (i : Interval) (t : Int) : Interval :=
  let up := Nat.pow 10 (-t).toNat
  ⟨i.low * up, i.value * up, i.high * up, i.den * Nat.pow 10 t.toNat, i.closed⟩

def Interval.has (i : Interval) (n : Nat) : Bool :=
  if i.closed then i.low ≤ n * i.den && n * i.den ≤ i.high
  else i.low < n * i.den && n * i.den < i.high

/-- The number of digits before the point, negative or zero for numbers below one tenth or one. -/
def Interval.position (i : Interval) : Int :=
  (Nat.toDigits 10 (i.value * Nat.pow 10 330 / i.den)).length - 330

/-- The decimal of `n` digits nearest to the value that lies in the interval, if there is one. -/
def Interval.decimal? (i : Interval) (n : Nat) : Option Decimal :=
  let t := i.position - n
  let u := i.inUnits t
  let d := u.value / u.den
  let up := u.den ≤ 2 * (u.value % u.den)
  match u.has d, u.has (d + 1) with
  | true, true => some ⟨if up then d + 1 else d, t⟩
  | true, false => some ⟨d, t⟩
  | false, true => some ⟨d + 1, t⟩
  | false, false => none

/-- The shortest decimal that reads back as the magnitude; seventeen digits always suffice. -/
def shortest (x : Double) : Decimal :=
  if x.significand = 0 then ⟨0, 0⟩
  else
    let i := x.interval
    let found := (List.range' 1 17).findSome? i.decimal?
    (found.getD ⟨0, 0⟩).stripZeros 18

def text (x : Double) : String :=
  if x.isNaN then "NaN"
  else
    let magnitude := if x.isInfinite then ['i', 'n', 'f'] else x.shortest.positional
    String.ofList (if x.isNegative then '-' :: magnitude else magnitude)

end Double

end RelMap
