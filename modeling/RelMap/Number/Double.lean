/-!
# Double-precision numbers

A double is kept as its 64 bits, so that equality is equality of bits and the payload of a NaN
survives. A finite double is a sign and a magnitude `m * 2 ^ q`.
-/

namespace RelMap

structure Double where
  bits : UInt64
deriving DecidableEq, Repr

namespace Double

/-- The number of values of the fraction field, which has 52 bits. -/
def fractionRange : Nat := 0x10000000000000

def isNegative (x : Double) : Bool := 0x8000000000000000 ≤ x.bits.toNat

def exponentField (x : Double) : Nat := x.bits.toNat / fractionRange % 0x800

def fraction (x : Double) : Nat := x.bits.toNat % fractionRange

def isNaN (x : Double) : Bool := x.exponentField = 2047 && x.fraction != 0

def isInfinite (x : Double) : Bool := x.exponentField = 2047 && x.fraction == 0

/-- The integer `m` of the magnitude `m * 2 ^ q` of a finite double. -/
def significand (x : Double) : Nat :=
  if x.exponentField = 0 then x.fraction else x.fraction + fractionRange

def exponent (x : Double) : Int :=
  if x.exponentField = 0 then -1074 else x.exponentField - 1075

/-- A quotient rounded to the nearest integer, half-way cases to the even neighbour. -/
def roundDiv (num den : Nat) : Nat :=
  let q := num / den
  let r := num % den
  if den < 2 * r || (2 * r = den && q % 2 = 1) then q + 1 else q

/-- The bits of the double nearest to the quotient `num / den`. The significand has 53 digits,
fewer only at the least exponent; a carry out of it raises the exponent, at last to infinity. -/
def quotientBits (num den : Nat) : Nat :=
  if num = 0 then 0
  else
    let e : Int := num.log2 - den.log2
    let e := if den <<< e.toNat ≤ num <<< (-e).toNat then e else e - 1
    let q := max (e - 52) (-1074)
    let scaled := roundDiv (num <<< (-q).toNat) (den <<< q.toNat)
    min ((q + 1074).toNat * fractionRange + scaled) (2047 * fractionRange)

def negate (x : Double) : Double := ⟨x.bits ^^^ 0x8000000000000000⟩

def ofInt (n : Int) : Double :=
  let magnitude : Double := ⟨UInt64.ofNat (quotientBits n.natAbs 1)⟩
  if n < 0 then magnitude.negate else magnitude

end Double

end RelMap
