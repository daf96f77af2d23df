/-! Base64 with the standard alphabet. Padding is required, nothing but the alphabet is accepted,
and bits that padding leaves over must be zero, so that bytes have only one accepted text. -/
namespace SignedAdmission.Base64

def symbol (n : Nat) : Char :=
  if n < 26 then Char.ofNat ('A'.toNat + n)
  else if n < 52 then Char.ofNat ('a'.toNat + (n - 26))
  else if n < 62 then Char.ofNat ('0'.toNat + (n - 52))
  else if n = 62 then '+'
  else '/'

def value? (c : Char) : Option Nat :=
  if 'A' ≤ c ∧ c ≤ 'Z' then some (c.toNat - 'A'.toNat)
  else if 'a' ≤ c ∧ c ≤ 'z' then some (c.toNat - 'a'.toNat + 26)
  else if '0' ≤ c ∧ c ≤ '9' then some (c.toNat - '0'.toNat + 52)
  else if c = '+' then some 62
  else if c = '/' then some 63
  else none

def encode : List UInt8 → List Char
  | [] => []
  | [a] =>
    let n := a.toNat
    [symbol (n / 4), symbol (n % 4 * 16), '=', '=']
  | [a, b] =>
    let n := a.toNat * 256 + b.toNat
    [symbol (n / 1024), symbol (n / 16 % 64), symbol (n % 16 * 4), '=']
  | a :: b :: c :: rest =>
    let n := (a.toNat * 256 + b.toNat) * 256 + c.toNat
    symbol (n / 262144) :: symbol (n / 4096 % 64) :: symbol (n / 64 % 64) :: symbol (n % 64) ::
      encode rest

/-- One byte from two symbols before two pads. -/
def last1? (a b : Char) : Option (List UInt8) := do
  let a ← value? a
  let b ← value? b
  guard (b % 16 = 0)
  return [UInt8.ofNat (a * 4 + b / 16)]

/-- Two bytes from three symbols before one pad. -/
def last2? (a b c : Char) : Option (List UInt8) := do
  let a ← value? a
  let b ← value? b
  let c ← value? c
  guard (c % 4 = 0)
  let n := (a * 64 + b) * 16 + c / 4
  return [UInt8.ofNat (n / 256), UInt8.ofNat n]

/-- Three bytes from four symbols. -/
def group? (a b c d : Char) : Option (List UInt8) := do
  let a ← value? a
  let b ← value? b
  let c ← value? c
  let d ← value? d
  let n := ((a * 64 + b) * 64 + c) * 64 + d
  return [UInt8.ofNat (n / 65536), UInt8.ofNat (n / 256), UInt8.ofNat n]

def decode? : List Char → Option (List UInt8)
  | [] => some []
  | a :: b :: c :: d :: rest =>
    if d = '=' ∧ rest.isEmpty then
      if c = '=' then last1? a b else last2? a b c
    else do
      let bytes ← group? a b c d
      return bytes ++ (← decode? rest)
  | _ => none

end SignedAdmission.Base64
