import SignedAdmission.Bytes.Sha256
import SignedAdmission.Key.Der
import SignedAdmission.Key.PowMod

/-! RSA public keys, and signatures with the probabilistic padding over SHA-256 and a salt as long
as the hash. -/
namespace SignedAdmission.Rsa

def maxModulusBits : Nat := 4096

/-- An odd modulus of at most 4096 bits, and an odd exponent below it, from 3 to below `2 ^ 33`. -/
def isValid (modulus exponent : Nat) : Bool :=
  modulus < Nat.pow 2 maxModulusBits && modulus % 2 == 1 && exponent < modulus &&
    exponent % 2 == 1 && 3 ≤ exponent && exponent < Nat.pow 2 33

structure PublicKey where
  modulus : Nat
  exponent : Nat
  valid : isValid modulus exponent = true
deriving DecidableEq

def PublicKey.ofNumbers? (modulus exponent : Nat) : Option PublicKey :=
  if h : isValid modulus exponent = true then some ⟨modulus, exponent, h⟩ else none

/-- The two numbers in a sequence. -/
def PublicKey.der (key : PublicKey) : List UInt8 :=
  Der.pair key.modulus key.exponent

def PublicKey.ofDer? (bytes : List UInt8) : Option PublicKey := do
  let (modulus, exponent) ← Der.pair? bytes
  ofNumbers? modulus exponent

/-- The object identifier of RSA keys, and a null. -/
def algorithm : List UInt8 :=
  [0x06, 0x09, 0x2a, 0x86, 0x48, 0x86, 0xf7, 0x0d, 0x01, 0x01, 0x01, 0x05, 0x00]

/-- A key inside a public key info. -/
def PublicKey.ofInfo? (bytes : List UInt8) : Option PublicKey := do
  ofDer? (← Der.publicKeyInfo? algorithm bytes)

def PublicKey.bits (key : PublicKey) : Nat :=
  key.modulus.log2 + 1

def PublicKey.size (key : PublicKey) : Nat :=
  (key.bits + 7) / 8

def hashLength : Nat := 32
def saltLength : Nat := 32

/-- The mask that a seed generates: hashes of the seed with a counter. -/
def mask (seed : List UInt8) (length : Nat) : List UInt8 :=
  ((List.range ((length + hashLength - 1) / hashLength)).flatMap fun i =>
    Sha256.digest (seed ++ Bytes.bigEndian 4 i)).take length

/-- Clears the leading bits of a first byte so that `bits` of its eight are left. -/
def clearLeading (bits : Nat) : List UInt8 → List UInt8
  | [] => []
  | first :: rest => UInt8.ofNat (first.toNat % Nat.pow 2 bits) :: rest

/-- Whether an encoded message of `bits` bits belongs to a hash. -/
def isEncoding (hash encoded : List UInt8) (bits : Nat) : Bool :=
  let length := encoded.length
  let leading := 8 - (8 * length - bits)
  if length < hashLength + saltLength + 2 then false
  else
    let masked := encoded.take (length - hashLength - 1)
    let rest := encoded.drop (length - hashLength - 1)
    let h := rest.take hashLength
    let block :=
      clearLeading leading (List.zipWith (· ^^^ ·) masked (mask h masked.length))
    let zeros := masked.length - saltLength - 1
    let salt := block.drop (zeros + 1)
    rest.drop hashLength == [0xbc] && clearLeading leading masked == masked &&
      (block.take zeros).all (· == 0) && block[zeros]? == some 1 &&
      Sha256.digest (List.replicate 8 0 ++ hash ++ salt) == h

/-- Whether a signature of the SHA-256 hash of a message verifies under a key. -/
def verifies (key : PublicKey) (message signature : List UInt8) : Bool :=
  let s := Bytes.number signature
  if signature.length ≠ key.size ∨ key.modulus ≤ s then false
  else
    let bits := key.bits - 1
    let encoded :=
      Bytes.bigEndian ((bits + 7) / 8) (powMod key.modulus s key.exponent 33)
    isEncoding (Sha256.digest message) encoded bits

end SignedAdmission.Rsa
