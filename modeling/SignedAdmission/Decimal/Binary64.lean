/-! Finite double-precision numbers as exact dyadic values. Arithmetic is done on quotients of
natural numbers and rounded once, to the nearest double and on a tie to the even significand. -/
namespace SignedAdmission

/-- The number `± significand · 2 ^ exponent`. A normal number has a significand of 53 bits; the
others have the exponent -1074. -/
structure Binary64 where
  negative : Bool
  significand : Nat
  exponent : Int
deriving DecidableEq, Repr

namespace Binary64

def zero : Binary64 := ⟨false, 0, -1074⟩

def isZero (x : Binary64) : Bool :=
  x.significand == 0

def neg (x : Binary64) : Binary64 :=
  { x with negative := !x.negative }

/-- The magnitude as a numerator over a denominator. -/
def ratio (x : Binary64) : Nat × Nat :=
  (x.significand * Nat.pow 2 x.exponent.toNat, Nat.pow 2 (-x.exponent).toNat)

/-- The exponent of the greatest power of two that is at most `num / den`, both positive. -/
def floorLog2 (num den : Nat) : Int :=
  let guess : Int := num.log2 - den.log2
  if den * Nat.pow 2 guess.toNat ≤ num * Nat.pow 2 (-guess).toNat then guess else guess - 1

/-- The quotient rounded to the nearest natural number, ties to even. -/
def roundDiv (num den : Nat) : Nat :=
  let quotient := num / den
  let twice := 2 * (num % den)
  if twice < den then quotient
  else if den < twice then quotient + 1
  else quotient + quotient % 2

/-- The double nearest to `num / den`, if the quotient is not beyond the largest one. -/
def ofRatio (num den : Nat) : Option Binary64 :=
  if num = 0 then some zero
  else
    let exponent := max (floorLog2 num den - 52) (-1074)
    let rounded :=
      roundDiv (num * Nat.pow 2 (-exponent).toNat) (den * Nat.pow 2 exponent.toNat)
    let (significand, exponent) :=
      if rounded = Nat.pow 2 53 then (Nat.pow 2 52, exponent + 1) else (rounded, exponent)
    if exponent ≤ 971 then some ⟨false, significand, exponent⟩ else none

/-- The nearest double to a power of ten. -/
def pow10? (n : Nat) : Option Binary64 :=
  ofRatio (Nat.pow 10 n) 1

/-- The rounded product of two magnitudes. -/
def mul? (x y : Binary64) : Option Binary64 :=
  ofRatio (x.ratio.1 * y.ratio.1) (x.ratio.2 * y.ratio.2)

/-- The rounded quotient of two magnitudes. -/
def div? (x y : Binary64) : Option Binary64 :=
  if y.isZero then none else ofRatio (x.ratio.1 * y.ratio.2) (x.ratio.2 * y.ratio.1)

/-- Divides by the largest power of ten a number of times. -/
def shrink : Nat → Binary64 → Option Binary64
  | 0, x => some x
  | steps + 1, x => if x.isZero then some x else do shrink steps (← x.div? (← pow10? 308))

/-- `significand · 10 ^ exponent` as one multiplication or division of doubles at a time, none if
it grows too large. -/
def ofDecimal (significand : Nat) (exponent : Int) : Option Binary64 := do
  let x ← ofRatio significand 1
  if x.isZero then some zero
  else if 0 ≤ exponent then
    if exponent ≤ 308 then x.mul? (← pow10? exponent.toNat) else none
  else
    let places := (-exponent).toNat
    let steps := min ((places - 1) / 308) 4
    let y ← shrink steps x
    if y.isZero then some zero else y.div? (← pow10? (places - 308 * steps))

end Binary64

end SignedAdmission
