import Mathlib.Algebra.Order.Group.Nat
import Mathlib.Tactic.Ring
import SignedAdmission.Bytes.Number
import SignedAdmission.Proofs.Bytes.Strict

/-! Numbers as bytes. Both ways to write a number, in a fixed count of bytes and in as few as it
takes, are read back. -/
namespace SignedAdmission.Bytes

variable {bytes : List UInt8} {count fuel n : ℕ}

theorem foldl_eq_number (start : ℕ) (bytes : List UInt8) :
    bytes.foldl (fun n b => n * 256 + b.toNat) start =
      start * 256 ^ bytes.length + number bytes := by
  induction bytes generalizing start with
  | nil => simp [number]
  | cons b bytes ih =>
    have head : number (b :: bytes) = (0 * 256 + b.toNat) * 256 ^ bytes.length + number bytes :=
      ih _
    rw [List.foldl_cons, ih, head, List.length_cons]
    ring

theorem number_cons (b : UInt8) (bytes : List UInt8) :
    number (b :: bytes) = b.toNat * 256 ^ bytes.length + number bytes := by
  rw [number, List.foldl_cons, foldl_eq_number, Nat.zero_mul, Nat.zero_add]

section Fixed

theorem bigEndian_succ (count n : ℕ) :
    bigEndian (count + 1) n = UInt8.ofNat (n / 256 ^ count) :: bigEndian count n := by
  rw [bigEndian, List.range_succ, List.reverse_append, List.reverse_singleton,
    List.singleton_append, List.map_cons]
  rfl

@[simp]
theorem length_bigEndian (count n : ℕ) : (bigEndian count n).length = count := by
  simp [bigEndian]

theorem number_bigEndian (count n : ℕ) : number (bigEndian count n) = n % 256 ^ count := by
  induction count with
  | zero => rw [Nat.pow_zero, Nat.mod_one]; rfl
  | succ count ih =>
    have split : n % 256 ^ (count + 1) = n % 256 ^ count + 256 ^ count * (n / 256 ^ count % 256) :=
      Nat.mod_pow_succ
    rw [bigEndian_succ, number_cons, ih, length_bigEndian, UInt8.toNat_ofNat', split]
    ring

/-- A number is read back from as many bytes as it needs. -/
theorem number_bigEndian_of_lt (fits : n < 256 ^ count) : number (bigEndian count n) = n := by
  rw [number_bigEndian, Nat.mod_eq_of_lt fits]

end Fixed

section Shortest

theorem number_go (fits : n < 256 ^ fuel) (bytes : List UInt8) :
    number (magnitude.go fuel n bytes) = n * 256 ^ bytes.length + number bytes := by
  induction fuel generalizing n bytes with
  | zero =>
    rw [Nat.pow_zero, Nat.lt_one_iff] at fits
    rw [fits, magnitude.go, Nat.zero_mul, Nat.zero_add]
  | succ fuel ih =>
    rw [magnitude.go]
    split
    case isTrue zero => rw [zero, Nat.zero_mul, Nat.zero_add]
    case isFalse =>
      have less : n / 256 < 256 ^ fuel := by
        rw [Nat.div_lt_iff_lt_mul (by decide), ← Nat.pow_succ]
        exact fits
      have split : n = n / 256 * 256 + n % 256 := (Nat.div_add_mod' n 256).symm
      rw [ih less, number_cons, List.length_cons, UInt8.toNat_ofNat']
      conv_rhs => rw [split]
      ring

theorem lt_magnitude_fuel (n : ℕ) : n < 256 ^ (n.log2 / 8 + 1) := by
  have bits : n < 2 ^ (n.log2 + 1) := Nat.lt_log2_self
  calc n < 2 ^ (n.log2 + 1) := bits
    _ ≤ 2 ^ (8 * (n.log2 / 8 + 1)) := Nat.pow_le_pow_right (by decide) (by omega)
    _ = 256 ^ (n.log2 / 8 + 1) := by rw [Nat.pow_mul]

theorem number_magnitude (n : ℕ) : number (magnitude n) = n := by
  rw [magnitude, number_go (lt_magnitude_fuel n)]
  simp [number]

theorem length_go (fits : n < 256 ^ count) (bytes : List UInt8) :
    (magnitude.go fuel n bytes).length ≤ count + bytes.length := by
  induction fuel generalizing n count bytes with
  | zero => exact Nat.le_add_left _ _
  | succ fuel ih =>
    rw [magnitude.go]
    split
    case isTrue => exact Nat.le_add_left _ _
    case isFalse some_bits =>
      cases count with
      | zero => simp at fits; omega
      | succ count =>
        have less : n / 256 < 256 ^ count := by
          rw [Nat.div_lt_iff_lt_mul (by decide), ← Nat.pow_succ]
          exact fits
        have bound := ih less (UInt8.ofNat n :: bytes)
        rw [List.length_cons] at bound
        omega

theorem length_magnitude_le (fits : n < 256 ^ count) : (magnitude n).length ≤ count :=
  length_go fits []

end Shortest

end SignedAdmission.Bytes
