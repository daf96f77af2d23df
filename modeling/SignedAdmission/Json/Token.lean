import SignedAdmission.Json.Basic

/-! The tokens of JSON text. -/
namespace SignedAdmission.Json

inductive Token where
  | openArray
  | closeArray
  | openObject
  | closeObject
  | colon
  | comma
  | null
  | bool (value : Bool)
  | number (value : Number)
  | string (value : String)
deriving DecidableEq, Repr

namespace Token

def digitValue (c : Char) : Nat :=
  c.toNat - '0'.toNat

def hexValue? (c : Char) : Option Nat :=
  if c.isDigit then some (c.toNat - '0'.toNat)
  else if 'a' ≤ c ∧ c ≤ 'f' then some (c.toNat - 'a'.toNat + 10)
  else if 'A' ≤ c ∧ c ≤ 'F' then some (c.toNat - 'A'.toNat + 10)
  else none

def hex4? (a b c d : Char) : Option Nat := do
  return (((← hexValue? a) * 16 + (← hexValue? b)) * 16 + (← hexValue? c)) * 16 + (← hexValue? d)

/-- The character that one letter after a backslash stands for. -/
def escaped? : Char → Option Char
  | '"' => some '"'
  | '\\' => some '\\'
  | '/' => some '/'
  | 'b' => some '\x08'
  | 'f' => some '\x0c'
  | 'n' => some '\n'
  | 'r' => some '\r'
  | 't' => some '\t'
  | _ => none

/-- The rest of a string after its opening quote: its characters, and what follows the closing
quote. A surrogate is accepted only as one half of an escaped pair. -/
def quoted? : List Char → Option (List Char × List Char)
  | [] => none
  | '"' :: rest => some ([], rest)
  | '\\' :: 'u' :: a :: b :: c :: d :: rest => do
    let unit ← hex4? a b c d
    if 0xD800 ≤ unit ∧ unit < 0xDC00 then
      match rest with
      | '\\' :: 'u' :: e :: f :: g :: h :: rest => do
        let low ← hex4? e f g h
        if 0xDC00 ≤ low ∧ low < 0xE000 then
          let (cs, rest) ← quoted? rest
          some (Char.ofNat (0x10000 + (unit - 0xD800) * 0x400 + (low - 0xDC00)) :: cs, rest)
        else none
      | _ => none
    else if 0xDC00 ≤ unit ∧ unit < 0xE000 then none
    else
      let (cs, rest) ← quoted? rest
      some (Char.ofNat unit :: cs, rest)
  | '\\' :: e :: rest => do
    let c ← escaped? e
    let (cs, rest) ← quoted? rest
    some (c :: cs, rest)
  | c :: rest =>
    if c.toNat < 0x20 then none
    else do
      let (cs, rest) ← quoted? rest
      some (c :: cs, rest)

/-- Appends digits to a significand while it stays below `2 ^ 64`, and returns those left over. -/
def gather (significand : Nat) : List Nat → Nat × List Nat
  | [] => (significand, [])
  | digit :: digits =>
    if Nat.pow 2 64 ≤ 10 * significand + digit then (significand, digit :: digits)
    else gather (10 * significand + digit) digits

/-- The parts of a number as it is spelled. -/
structure Numeral where
  negative : Bool
  whole : List Nat
  fraction : Option (List Nat)
  exponent : Option Int

/-- Without fraction and exponent a number that fits 64 bits is an integer, save for negative zero.
Any other number has as many digits as 64 bits hold, scaled by a power of ten. -/
def Numeral.value? (n : Numeral) : Option Number :=
  let (whole, dropped) := gather 0 n.whole
  let float (significand : Nat) (exponent : Int) : Option Number := do
    let x ← Binary64.ofDecimal significand exponent
    some (.float (if n.negative then x.neg else x))
  match n.fraction, n.exponent with
  | none, none =>
    if !dropped.isEmpty then float whole dropped.length
    else if !n.negative then some (.int whole)
    else if whole = 0 ∨ Nat.pow 2 63 < whole then float whole 0
    else some (.int (-whole))
  | fraction, exponent =>
    let (significand, left) := gather whole (fraction.getD [])
    let places : Int := (fraction.getD []).length - left.length
    float significand (dropped.length - places + exponent.getD 0)

def digits (cs : List Char) : List Nat × List Char :=
  ((cs.takeWhile Char.isDigit).map digitValue, cs.dropWhile Char.isDigit)

/-- The digits after a decimal point, at least one, if there is a point. -/
def fraction? (cs : List Char) : Option (Option (List Nat) × List Char) :=
  match cs with
  | '.' :: rest =>
    match digits rest with
    | ([], _) => none
    | (ds, rest) => some (some ds, rest)
  | rest => some (none, rest)

/-- The exponent, with at least one digit, if there is one. -/
def exponent? (cs : List Char) : Option (Option Int × List Char) :=
  match cs with
  | e :: rest =>
    if e = 'e' ∨ e = 'E' then
      let (sign, rest) : Int × List Char :=
        match rest with
        | '+' :: rest => (1, rest)
        | '-' :: rest => (-1, rest)
        | rest => (1, rest)
      match digits rest with
      | ([], _) => none
      | (ds, rest) => some (some (sign * ds.foldl (fun n d => 10 * n + d) (0 : Nat)), rest)
    else some (none, e :: rest)
  | [] => some (none, [])

/-- A number, which has no superfluous leading zero. -/
def number? (cs : List Char) : Option (Number × List Char) := do
  let (negative, cs) :=
    match cs with
    | '-' :: rest => (true, rest)
    | rest => (false, rest)
  let (whole, cs) ←
    match digits cs with
    | ([], _) => none
    | (0 :: _ :: _, _) => none
    | (ds, rest) => some (ds, rest)
  let (fraction, cs) ← fraction? cs
  let (exponent, cs) ← exponent? cs
  return (← Numeral.value? ⟨negative, whole, fraction, exponent⟩, cs)

def isBlank (c : Char) : Bool :=
  c == ' ' || c == '\t' || c == '\n' || c == '\r'

/-- The first token of a text that starts with no blank, and the rest. -/
def next? : List Char → Option (Token × List Char)
  | '[' :: rest => some (.openArray, rest)
  | ']' :: rest => some (.closeArray, rest)
  | '\x7b' :: rest => some (.openObject, rest)
  | '\x7d' :: rest => some (.closeObject, rest)
  | ':' :: rest => some (.colon, rest)
  | ',' :: rest => some (.comma, rest)
  | 'n' :: 'u' :: 'l' :: 'l' :: rest => some (.null, rest)
  | 't' :: 'r' :: 'u' :: 'e' :: rest => some (.bool true, rest)
  | 'f' :: 'a' :: 'l' :: 's' :: 'e' :: rest => some (.bool false, rest)
  | '"' :: rest => (quoted? rest).map fun (cs, rest) => (.string (String.ofList cs), rest)
  | cs => (number? cs).map fun (n, rest) => (.number n, rest)

/-- `fuel` bounds the number of tokens and blanks. -/
def scanWith : Nat → List Char → Option (List Token)
  | _, [] => some []
  | 0, _ :: _ => none
  | fuel + 1, c :: cs =>
    if isBlank c then scanWith fuel cs
    else do
      let (token, rest) ← next? (c :: cs)
      return token :: (← scanWith fuel rest)

/-- All tokens of a text. -/
def scan? (cs : List Char) : Option (List Token) :=
  scanWith cs.length cs

end Token

end SignedAdmission.Json
