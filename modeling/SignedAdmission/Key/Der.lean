import SignedAdmission.Bytes.Number

/-! The distinguished encoding of the few values that keys and signatures are made of. Every value
has exactly one encoding, and readers accept no other. -/
namespace SignedAdmission.Der

open Bytes (number magnitude)

def maxLength : Nat := 0xFFFFFFF

/-- A length below 128 is one byte; a greater one is the number of its bytes, then those. -/
def lengthBytes (n : Nat) : List UInt8 :=
  if n < 0x80 then [UInt8.ofNat n]
  else UInt8.ofNat (0x80 + (magnitude n).length) :: magnitude n

/-- A length in its only encoding, and the rest. -/
def length? : List UInt8 → Option (Nat × List UInt8)
  | [] => none
  | first :: rest =>
    if first < 0x80 then some (first.toNat, rest)
    else
      let count := first.toNat - 0x80
      let n := number (rest.take count)
      if count ≤ rest.length ∧ n ≤ maxLength ∧ lengthBytes n = first :: rest.take count
      then some (n, rest.drop count)
      else none

def sequenceTag : UInt8 := 0x30
def integerTag : UInt8 := 0x02
def bitStringTag : UInt8 := 0x03

/-- A value with its tag and length. -/
def tagged (tag : UInt8) (content : List UInt8) : List UInt8 :=
  tag :: lengthBytes content.length ++ content

/-- The content of a value with the given tag, and the rest. -/
def tagged? (tag : UInt8) : List UInt8 → Option (List UInt8 × List UInt8)
  | [] => none
  | t :: rest => do
    guard (t = tag)
    let (n, rest) ← length? rest
    guard (n ≤ rest.length)
    return (rest.take n, rest.drop n)

/-- The content of a value that is followed by nothing. -/
def only? (tag : UInt8) (bytes : List UInt8) : Option (List UInt8) := do
  let (content, rest) ← tagged? tag bytes
  guard rest.isEmpty
  return content

/-- A zero byte goes in front where the first byte would read as a sign. -/
def unsignedContent (n : Nat) : List UInt8 :=
  match magnitude n with
  | [] => [0]
  | first :: rest => if first < 0x80 then first :: rest else 0 :: first :: rest

def unsigned (n : Nat) : List UInt8 :=
  tagged integerTag (unsignedContent n)

/-- A number that is not negative, and the rest. -/
def unsigned? (bytes : List UInt8) : Option (Nat × List UInt8) := do
  let (content, rest) ← tagged? integerTag bytes
  let n := number content
  guard (content = unsignedContent n)
  return (n, rest)

/-- Two numbers in a sequence, and nothing else. -/
def pair? (bytes : List UInt8) : Option (Nat × Nat) := do
  let body ← only? sequenceTag bytes
  let (a, rest) ← unsigned? body
  let (b, rest) ← unsigned? rest
  guard rest.isEmpty
  return (a, b)

def pair (a b : Nat) : List UInt8 :=
  tagged sequenceTag (unsigned a ++ unsigned b)

/-- A public key with the content of its algorithm identifier. -/
def publicKeyInfo (algorithm key : List UInt8) : List UInt8 :=
  tagged sequenceTag (tagged sequenceTag algorithm ++ tagged bitStringTag (0 :: key))

/-- The key of a public key info for an algorithm; a key is a whole number of bytes. -/
def publicKeyInfo? (algorithm bytes : List UInt8) : Option (List UInt8) := do
  let body ← only? sequenceTag bytes
  let (found, rest) ← tagged? sequenceTag body
  guard (found = algorithm)
  match ← only? bitStringTag rest with
  | 0 :: key => return key
  | _ => none

end SignedAdmission.Der
