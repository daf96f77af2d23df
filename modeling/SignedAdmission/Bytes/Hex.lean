/-! Hexadecimal text of bytes: two digits a byte, written in lowercase, read in either case. -/
namespace SignedAdmission.Hex

def encode (bytes : List UInt8) : List Char :=
  bytes.flatMap fun b => [Nat.digitChar (b.toNat / 16), Nat.digitChar (b.toNat % 16)]

def value? (c : Char) : Option Nat :=
  if '0' ≤ c ∧ c ≤ '9' then some (c.toNat - '0'.toNat)
  else if 'a' ≤ c ∧ c ≤ 'f' then some (c.toNat - 'a'.toNat + 10)
  else if 'A' ≤ c ∧ c ≤ 'F' then some (c.toNat - 'A'.toNat + 10)
  else none

/-- An odd number of digits, or the first character that is no digit, with its position. -/
inductive Fault where
  | oddLength
  | invalid (c : Char) (position : Nat)
deriving DecidableEq, Repr

def Fault.message : Fault → String
  | .oddLength => "Odd number of digits"
  | .invalid c position =>
    "Invalid character '" ++ c.toString ++ "' at position " ++ toString position

/-- Reads pairs of digits from a position on. -/
def decodeFrom (position : Nat) : List Char → Except Fault (List UInt8)
  | [] => .ok []
  | [_] => .error .oddLength
  | a :: b :: rest =>
    match value? a, value? b with
    | none, _ => .error (.invalid a position)
    | some _, none => .error (.invalid b (position + 1))
    | some high, some low => do
      return UInt8.ofNat (high * 16 + low) :: (← decodeFrom (position + 2) rest)

def decode (cs : List Char) : Except Fault (List UInt8) :=
  if cs.length % 2 = 1 then .error .oddLength else decodeFrom 0 cs

end SignedAdmission.Hex
