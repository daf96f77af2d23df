import SignedAdmission.Decimal.Binary64

/-! Decimal numerals and the doubles nearest to them. -/
namespace SignedAdmission

/-- The number `± significand · 10 ^ exponent`. -/
structure Numeral where
  negative : Bool
  significand : Nat
  exponent : Int
deriving DecidableEq, Repr

/-- Doubles with the values that are no numbers. -/
inductive Real64 where
  | finite (value : Binary64)
  | infinite (negative : Bool)
  | nan
deriving DecidableEq, Repr

namespace Numeral

def digitsValue (digits : List Char) : Nat :=
  digits.foldl (fun n c => 10 * n + (c.toNat - '0'.toNat)) 0

/-- A sign, if there is one, and what follows it. -/
def sign (cs : List Char) : Bool × List Char :=
  match cs with
  | '-' :: rest => (true, rest)
  | '+' :: rest => (false, rest)
  | rest => (false, rest)

/-- The exponent that makes up the rest of a numeral, zero if nothing is left. -/
def exponent? : List Char → Option Int
  | [] => some 0
  | e :: rest =>
    let (negative, digits) := sign rest
    if (e == 'e' || e == 'E') && !digits.isEmpty && digits.all Char.isDigit then
      some (if negative then -(digitsValue digits : Int) else digitsValue digits)
    else none

/-- A numeral has at least one digit, before or after its point. -/
def parse? (cs : List Char) : Option Numeral := do
  let (negative, cs) := sign cs
  let whole := cs.takeWhile Char.isDigit
  let (fraction, rest) :=
    match cs.drop whole.length with
    | '.' :: rest => (rest.takeWhile Char.isDigit, rest.dropWhile Char.isDigit)
    | rest => ([], rest)
  if whole.isEmpty && fraction.isEmpty then none
  let exponent ← exponent? rest
  return {
    negative := negative
    significand := digitsValue (whole ++ fraction)
    exponent := exponent - fraction.length }

/-- The nearest double. Beyond these bounds of the magnitude it is zero or infinite anyway. -/
def nearest (n : Numeral) : Real64 :=
  let size : Int := (Nat.toDigits 10 n.significand).length + n.exponent
  let magnitude : Option Binary64 :=
    if n.significand = 0 ∨ size < -330 then some Binary64.zero
    else if 330 < size then none
    else Binary64.ofRatio (n.significand * Nat.pow 10 n.exponent.toNat)
      (Nat.pow 10 (-n.exponent).toNat)
  match magnitude with
  | some x => .finite (if n.negative then x.neg else x)
  | none => .infinite n.negative

end Numeral

/-- A numeral, or a name of a value that is no number in any case. -/
def Real64.parse? (cs : List Char) : Option Real64 :=
  let (negative, name) := Numeral.sign cs
  let name := String.ofList (name.map Char.toLower)
  if name = "nan" then some .nan
  else if name = "inf" ∨ name = "infinity" then some (.infinite negative)
  else (Numeral.parse? cs).map Numeral.nearest

end SignedAdmission
