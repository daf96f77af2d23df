import SignedAdmission.Bytes.Sha256
import SignedAdmission.Key.Der
import SignedAdmission.Key.PowMod

/-! The curve P-256, `y² = x³ - 3x + b` over a prime field, its points as keys, and the signatures
they verify. -/
namespace SignedAdmission.P256

def p : Nat := 0xffffffff00000001000000000000000000000000ffffffffffffffffffffffff
def b : Nat := 0x5ac635d8aa3a93e7b3ebbd55769886bc651d06b0cc53b0f63bce3c3e27d2604b

/-- The order of the base point. -/
def n : Nat := 0xffffffff00000000ffffffffffffffffbce6faada7179e84f3b9cac2fc632551

def baseX : Nat := 0x6b17d1f2e12c4247f8bce6e563a440f277037d812deb33a0f4a13945d898c296
def baseY : Nat := 0x4fe342e2fe1a7f9b8ee7eb4a7c0f9e162bce33576b315ececbb6406837bf51f5

/-- The number of bytes of a coordinate or a scalar. -/
def width : Nat := 32

def sub (x y : Nat) : Nat := (x + (p - y)) % p

/-- The right-hand side of the curve's equation. -/
def cubic (x : Nat) : Nat :=
  sub ((x * x % p * x + b) % p) (3 * x % p)

def isOnCurve (x y : Nat) : Bool :=
  x < p && y < p && y * y % p == cubic x

/-- A point of the curve other than the one at infinity. -/
structure Point where
  x : Nat
  y : Nat
  onCurve : isOnCurve x y = true
deriving DecidableEq

def Point.ofCoordinates? (x y : Nat) : Option Point :=
  if h : isOnCurve x y = true then some ⟨x, y, h⟩ else none

/-- A square root in the field, if there is one; `p` leaves 3 when divided by 4. -/
def root? (square : Nat) : Option Nat :=
  let y := powMod p square ((p + 1) / 4) 256
  if y * y % p = square then some y else none

/-- The point with a given abscissa whose ordinate `choose` picks among a root and its negative. -/
def Point.ofAbscissa? (x : Nat) (choose : Nat → Nat → Nat) : Option Point := do
  let y ← root? (cubic x)
  ofCoordinates? x (choose y ((p - y) % p))

/-- Points are written with both coordinates, with one and the parity of the other, or with one
and the smaller of the two others. -/
def Point.ofBytes? : List UInt8 → Option Point
  | [] => none
  | form :: rest =>
    let x := Bytes.number (rest.take width)
    if form = 0x04 ∧ rest.length = 2 * width then
      ofCoordinates? x (Bytes.number (rest.drop width))
    else if rest.length = width then
      if form = 0x02 ∨ form = 0x03 then
        ofAbscissa? x fun y z => if y % 2 = form.toNat % 2 then y else z
      else if form = 0x05 then ofAbscissa? x min
      else none
    else none

/-- The form with both coordinates. -/
def Point.bytes (q : Point) : List UInt8 :=
  0x04 :: Bytes.bigEndian width q.x ++ Bytes.bigEndian width q.y

/-- The object identifiers of elliptic-curve keys and of this curve. -/
def algorithm : List UInt8 :=
  [0x06, 0x07, 0x2a, 0x86, 0x48, 0xce, 0x3d, 0x02, 0x01,
    0x06, 0x08, 0x2a, 0x86, 0x48, 0xce, 0x3d, 0x03, 0x01, 0x07]

def Point.der (q : Point) : List UInt8 :=
  Der.publicKeyInfo algorithm q.bytes

def Point.ofDer? (bytes : List UInt8) : Option Point := do
  Point.ofBytes? (← Der.publicKeyInfo? algorithm bytes)

/-- A point as `(x / z², y / z³)`; the point at infinity has `z = 0`. -/
structure Jacobian where
  x : Nat
  y : Nat
  z : Nat
deriving DecidableEq, Repr

namespace Jacobian

def infinity : Jacobian := ⟨1, 1, 0⟩

def ofPoint (q : Point) : Jacobian := ⟨q.x, q.y, 1⟩

def base : Jacobian := ⟨baseX, baseY, 1⟩

def double (q : Jacobian) : Jacobian :=
  let delta := q.z * q.z % p
  let gamma := q.y * q.y % p
  let beta := q.x * gamma % p
  let alpha := 3 * (sub q.x delta * (q.x + delta) % p) % p
  let x := sub (alpha * alpha % p) (8 * beta % p)
  let sum := (q.y + q.z) % p
  let z := sub (sub (sum * sum % p) gamma) delta
  ⟨x, sub (alpha * sub (4 * beta % p) x % p) (8 * (gamma * gamma % p) % p), z⟩

def add (q r : Jacobian) : Jacobian :=
  if q.z = 0 then r
  else if r.z = 0 then q
  else
    let qz := q.z * q.z % p
    let rz := r.z * r.z % p
    let u1 := q.x * rz % p
    let u2 := r.x * qz % p
    let s1 := q.y * rz % p * r.z % p
    let s2 := r.y * qz % p * q.z % p
    if u1 = u2 then
      if s1 = s2 then double q else infinity
    else
      let h := sub u2 u1
      let t := sub s2 s1
      let hh := h * h % p
      let hhh := h * hh % p
      let v := u1 * hh % p
      let x := sub (sub (t * t % p) hhh) (2 * v % p)
      ⟨x, sub (t * sub v x % p) (s1 * hhh % p), q.z * r.z % p * h % p⟩

/-- `u · q + v · r`, for scalars below `2 ^ 256`. -/
def combine (u : Nat) (q : Jacobian) (v : Nat) (r : Jacobian) : Jacobian :=
  let both := add q r
  (List.range 256).reverse.foldl
    (fun acc i =>
      let twice := double acc
      match u.testBit i, v.testBit i with
      | true, true => add twice both
      | true, false => add twice q
      | false, true => add twice r
      | false, false => twice)
    infinity

/-- The abscissa of a point that is not at infinity. -/
def abscissa? (q : Jacobian) : Option Nat :=
  if q.z = 0 then none
  else
    let inverse := powMod p q.z (p - 2) 256
    some (q.x * (inverse * inverse % p) % p)

end Jacobian

/-- A signature's two scalars, both from 1 to below the order. -/
structure Signature where
  r : Nat
  s : Nat
deriving DecidableEq, Repr

def Signature.ofScalars? (r s : Nat) : Option Signature :=
  if 0 < r ∧ r < n ∧ 0 < s ∧ s < n then some ⟨r, s⟩ else none

/-- A signature is the two scalars in 32 bytes each, or a sequence of two numbers. -/
def Signature.ofBytes? (bytes : List UInt8) : Option Signature :=
  let plain :=
    if bytes.length = 2 * width then
      ofScalars? (Bytes.number (bytes.take width)) (Bytes.number (bytes.drop width))
    else none
  plain.or do
    let (r, s) ← Der.pair? bytes
    ofScalars? r s

/-- Whether a signature of the SHA-256 hash of a message verifies under a key. -/
def verifies (key : Point) (message : List UInt8) (signature : Signature) : Bool :=
  let z := Bytes.number (Sha256.digest message)
  let inverse := powMod n signature.s (n - 2) 256
  let u := z * inverse % n
  let v := signature.r * inverse % n
  match (Jacobian.combine u .base v (.ofPoint key)).abscissa? with
  | some x => x % n == signature.r
  | none => false

end SignedAdmission.P256
