import SignedAdmission.Decimal.Binary64

/-! The shortest decimal that reads back as a given double, and of those the one nearest to it. -/
namespace SignedAdmission.Binary64

/-- The decimal `digits · 10 ^ exponent`. -/
structure Decimal where
  digits : Nat
  exponent : Int
deriving DecidableEq, Repr

/-- The open or closed interval of reals that round to a positive double, over a common
denominator. -/
structure RoundingInterval where
  low : Nat
  value : Nat
  high : Nat
  den : Nat
  closed : Bool

/-- A neighbour is half as far below a power of two as it is above. -/
def roundingInterval (x : Binary64) : RoundingInterval :=
  let (num, den) := x.ratio
  let unit := Nat.pow 2 x.exponent.toNat
  let below := if x.significand = Nat.pow 2 52 ∧ -1074 < x.exponent then unit else 2 * unit
  { low := 4 * num - below, value := 4 * num, high := 4 * num + 2 * unit, den := 4 * den,
    closed := x.significand % 2 == 0 }

def RoundingInterval.contains (interval : RoundingInterval) (num : Nat) : Bool :=
  if interval.closed then interval.low ≤ num && num ≤ interval.high
  else interval.low < num && num < interval.high

/-- The exponent of the greatest power of ten that is at most `num / den`, both positive. -/
def floorLog10 (num den : Nat) : Int :=
  let guess : Int := (Nat.toDigits 10 num).length - (Nat.toDigits 10 den).length
  if den * Nat.pow 10 guess.toNat ≤ num * Nat.pow 10 (-guess).toNat then guess else guess - 1

/-- Of the value's two neighbours on the grid of multiples of `10 ^ exponent`, the nearer one that
lies in the interval; the even one if both are equally near. -/
def onGrid? (interval : RoundingInterval) (exponent : Int) : Option Decimal :=
  let up := Nat.pow 10 exponent.toNat * interval.den
  let down := Nat.pow 10 (-exponent).toNat
  let lower := interval.value * down / up
  let inside (n : Nat) : Bool :=
    { interval with low := interval.low * down, high := interval.high * down }.contains (n * up)
  let toLower := interval.value * down - lower * up
  let toUpper := (lower + 1) * up - interval.value * down
  match inside lower && lower != 0, inside (lower + 1) with
  | true, true =>
    if toLower < toUpper ∨ (toLower = toUpper ∧ lower % 2 = 0) then some ⟨lower, exponent⟩
    else some ⟨lower + 1, exponent⟩
  | true, false => some ⟨lower, exponent⟩
  | false, true => some ⟨lower + 1, exponent⟩
  | false, false => none

/-- Drops trailing zeros; `steps` bounds their number. -/
def Decimal.trimZeros : Nat → Decimal → Decimal
  | 0, d => d
  | steps + 1, d =>
    if d.digits % 10 = 0 then trimZeros steps ⟨d.digits / 10, d.exponent + 1⟩ else d

/-- The first grid with a hit among those of one digit, two digits, and so on up to seventeen. -/
def shortest (x : Binary64) : Decimal :=
  let interval := x.roundingInterval
  let top := floorLog10 x.ratio.1 x.ratio.2
  match (List.range 17).findSome? fun (n : Nat) => onGrid? interval (top - n) with
  | some d => d.trimZeros 17
  | none => ⟨0, 0⟩

/-- Where positional notation ends and how an exponent is written. -/
structure DecimalForm where
  /-- Numbers of at least `10 ^ high` are written with an exponent. -/
  high : Int
  /-- Numbers below `10 ^ low` are written with an exponent. -/
  low : Int
  /-- Whether a whole number in positional notation ends in `.0`. -/
  pointed : Bool

/-- A point has a digit on both sides of it; an exponent follows one digit, or a point after the
first digit, and carries its sign. -/
def format (form : DecimalForm) (x : Binary64) : List Char :=
  let sign := if x.negative then ['-'] else []
  let wholeEnd := if form.pointed then ['.', '0'] else []
  if x.isZero then sign ++ '0' :: wholeEnd
  else
    let d := x.shortest
    let digits := Nat.toDigits 10 d.digits
    let count : Int := digits.length
    let point := count + d.exponent
    let body :=
      if 0 ≤ d.exponent ∧ point ≤ form.high then
        digits ++ List.replicate d.exponent.toNat '0' ++ wholeEnd
      else if 0 < point ∧ point ≤ form.high then
        digits.take point.toNat ++ '.' :: digits.drop point.toNat
      else if form.low < point ∧ point ≤ 0 then
        '0' :: '.' :: List.replicate (-point).toNat '0' ++ digits
      else
        let exponent := point - 1
        let mantissa :=
          match digits with
          | first :: second :: rest => first :: '.' :: second :: rest
          | short => short
        mantissa ++ 'e' :: (if exponent < 0 then '-' else '+') :: Nat.toDigits 10 exponent.natAbs
    sign ++ body

end SignedAdmission.Binary64
