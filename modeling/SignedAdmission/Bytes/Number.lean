/-! Natural numbers as bytes, most significant byte first. -/
namespace SignedAdmission.Bytes

/-- The number that bytes spell. -/
def number (bytes : List UInt8) : Nat :=
  bytes.foldl (fun n b => n * 256 + b.toNat) 0

/-- The low `count` bytes of a number. -/
def bigEndian (count n : Nat) : List UInt8 :=
  (List.range count).reverse.map fun i => UInt8.ofNat (n / Nat.pow 256 i)

/-- The bytes of a number without leading zeros; zero has none. -/
def magnitude (n : Nat) : List UInt8 :=
  go (n.log2 / 8 + 1) n []
where
  /-- `fuel` bounds the number of bytes. -/
  go : Nat → Nat → List UInt8 → List UInt8
    | 0, _, bytes => bytes
    | fuel + 1, n, bytes => if n = 0 then bytes else go fuel (n / 256) (UInt8.ofNat n :: bytes)

end SignedAdmission.Bytes
