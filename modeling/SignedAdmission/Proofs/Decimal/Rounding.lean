import Mathlib.Algebra.Order.Field.Power
import Mathlib.Data.Rat.Cast.Order
import Mathlib.Tactic.Linarith
import Mathlib.Tactic.NormNum
import Mathlib.Tactic.Positivity
import Mathlib.Tactic.Ring
import SignedAdmission.Decimal.Binary64

/-! Doubles in canonical form. What arithmetic on quotients rounds to has either a significand of 53
bits or the least exponent, so that every finite double has one form only. -/
namespace SignedAdmission.Binary64

/-- A significand of 53 bits, or fewer with the least exponent. -/
structure Canonical (x : Binary64) : Prop where
  significand_lt : x.significand < 2 ^ 53
  le_exponent : -1074 ≤ x.exponent
  normal : -1074 < x.exponent → 2 ^ 52 ≤ x.significand

theorem Canonical.zero : Canonical zero where
  significand_lt := by decide
  le_exponent := by decide
  normal := by decide

theorem Canonical.neg {x : Binary64} (h : x.Canonical) : x.neg.Canonical := by
  exact ⟨h.significand_lt, h.le_exponent, h.normal⟩

section Logarithms

variable {b num den m n : ℕ}

/-- A power is a quotient of powers with natural exponents, one of which is zero. -/
theorem pow_toNat (base : 0 < b) (e : ℤ) : (b : ℚ) ^ e.toNat = b ^ e * b ^ (-e).toNat := by
  have nonzero : (b : ℚ) ≠ 0 := by positivity
  obtain ⟨n, rfl | rfl⟩ := e.eq_nat_or_neg
  · simp
  · simp [nonzero]

/-- Powers are compared without fractions. -/
theorem mul_pow_toNat_le (base : 0 < b) (e : ℤ) :
    den * b ^ e.toNat ≤ num * b ^ (-e).toNat ↔ (b : ℚ) ^ e * den ≤ num := by
  have positive : (0 : ℚ) < b ^ (-e).toNat := by positivity
  rw [← @Nat.cast_le ℚ]
  push_cast
  rw [pow_toNat base, ← mul_assoc, mul_le_mul_iff_left₀ positive, mul_comm]

/-- Between which powers of a base a quotient is. -/
theorem quotient_bounds (base : 0 < b) (num_ge : b ^ m ≤ num) (num_lt : num < b ^ (m + 1))
    (den_ge : b ^ n ≤ den) (den_lt : den < b ^ (n + 1)) :
    (b : ℚ) ^ ((m : ℤ) - n - 1) * den ≤ num ∧ (num : ℚ) < b ^ ((m : ℤ) - n + 1) * den := by
  have nonzero : (b : ℚ) ≠ 0 := by positivity
  constructor
  · calc (b : ℚ) ^ ((m : ℤ) - n - 1) * den
        ≤ b ^ ((m : ℤ) - n - 1) * b ^ ((n : ℤ) + 1) := by
          gcongr
          exact_mod_cast den_lt.le
      _ = b ^ (m : ℤ) := by
          rw [← zpow_add₀ nonzero]
          congr 1
          omega
      _ ≤ num := by exact_mod_cast num_ge
  · calc (num : ℚ) < b ^ ((m : ℤ) + 1) := by exact_mod_cast num_lt
      _ = b ^ ((m : ℤ) - n + 1) * b ^ (n : ℤ) := by
          rw [← zpow_add₀ nonzero]
          congr 1
          omega
      _ ≤ b ^ ((m : ℤ) - n + 1) * den := by
          gcongr
          exact_mod_cast den_ge

end Logarithms

/-- The exponent is that of the greatest power of two which is not above the quotient. -/
theorem floorLog2_bounds {num den : ℕ} (num_pos : 0 < num) (den_pos : 0 < den) :
    (2 : ℚ) ^ floorLog2 num den * den ≤ num ∧
      (num : ℚ) < 2 ^ (floorLog2 num den + 1) * den := by
  obtain ⟨low, high⟩ := quotient_bounds Nat.two_pos (Nat.log2_self_le num_pos.ne')
    Nat.lt_log2_self (Nat.log2_self_le den_pos.ne') Nat.lt_log2_self
  rw [floorLog2]
  split
  case isTrue reached => exact ⟨(mul_pow_toNat_le Nat.two_pos _).mp reached, high⟩
  case isFalse missed =>
    refine ⟨low, ?_⟩
    rw [sub_add_cancel]
    exact lt_of_not_ge fun reached => missed ((mul_pow_toNat_le Nat.two_pos _).mpr reached)

section Rounding

variable {num den bound : ℕ} {x : Binary64}

theorem le_roundDiv (den_pos : 0 < den) (h : bound * den ≤ num) : bound ≤ roundDiv num den := by
  have quotient : bound ≤ num / den := (Nat.le_div_iff_mul_le den_pos).mpr h
  simp only [roundDiv]
  split
  · exact quotient
  · split <;> omega

theorem roundDiv_le (den_pos : 0 < den) (h : num < bound * den) : roundDiv num den ≤ bound := by
  have quotient : num / den < bound := (Nat.div_lt_iff_lt_mul den_pos).mpr h
  simp only [roundDiv]
  split
  · exact quotient.le
  · split <;> omega

/-- The exponent that is chosen leaves a significand of at most 53 bits, and of no fewer unless it
is the least exponent. -/
theorem exponent_bounds (num_pos : 0 < num) (den_pos : 0 < den) {e : ℤ}
    (chosen : e = max (floorLog2 num den - 52) (-1074)) :
    num * 2 ^ (-e).toNat < 2 ^ 53 * (den * 2 ^ e.toNat) ∧
      (-1074 < e → 2 ^ 52 * (den * 2 ^ e.toNat) ≤ num * 2 ^ (-e).toNat) := by
  obtain ⟨low, high⟩ := floorLog2_bounds num_pos den_pos
  have compare (k : ℕ) : 2 ^ k * (den * 2 ^ e.toNat) ≤ num * 2 ^ (-e).toNat ↔
      (2 : ℚ) ^ (e + k) * den ≤ num := by
    rw [← mul_assoc, mul_pow_toNat_le Nat.two_pos, zpow_add₀ two_ne_zero, zpow_natCast]
    push_cast
    rw [mul_assoc]
  constructor
  · rw [← not_le, compare, not_le]
    refine high.trans_le (mul_le_mul_of_nonneg_right ?_ (Nat.cast_nonneg den))
    exact zpow_le_zpow_right₀ one_le_two (by omega)
  · intro larger
    rw [compare]
    refine le_trans (mul_le_mul_of_nonneg_right ?_ (Nat.cast_nonneg den)) low
    exact zpow_le_zpow_right₀ one_le_two (by omega)

theorem canonical_ofRatio (den_pos : 0 < den) (h : ofRatio num den = some x) : x.Canonical := by
  rw [ofRatio] at h
  split at h
  case isTrue =>
    obtain rfl := Option.some.inj h
    exact .zero
  case isFalse nonzero =>
    obtain ⟨e, chosen⟩ : ∃ e, e = max (floorLog2 num den - 52) (-1074) := ⟨_, rfl⟩
    have least : -1074 ≤ e := chosen ▸ le_max_right _ _
    obtain ⟨below, above⟩ := exponent_bounds (Nat.pos_of_ne_zero nonzero) den_pos chosen
    have scaled_pos : 0 < den * 2 ^ e.toNat := by positivity
    have most := roundDiv_le scaled_pos below
    simp only [Nat.pow_eq, ← chosen] at h
    split at h
    case isTrue carried =>
      simp only [Option.ite_none_right_eq_some, Option.some.injEq] at h
      obtain ⟨-, rfl⟩ := h
      exact ⟨by norm_num, by simp only; omega, fun _ => le_refl _⟩
    case isFalse fits =>
      simp only [Option.ite_none_right_eq_some, Option.some.injEq] at h
      obtain ⟨-, rfl⟩ := h
      exact ⟨lt_of_le_of_ne most fits, least, fun larger => le_roundDiv scaled_pos (above larger)⟩

end Rounding

section Arithmetic

variable {x y z : Binary64}

theorem ratio_den_pos (x : Binary64) : 0 < x.ratio.2 := by
  simp only [ratio, Nat.pow_eq]
  positivity

theorem ratio_num_pos (nonzero : x.isZero = false) : 0 < x.ratio.1 := by
  have significand_pos : 0 < x.significand := by
    simpa [isZero, Nat.pos_iff_ne_zero] using nonzero
  simp only [ratio, Nat.pow_eq]
  positivity

theorem canonical_mul? (h : x.mul? y = some z) : z.Canonical :=
  canonical_ofRatio (Nat.mul_pos x.ratio_den_pos y.ratio_den_pos) h

theorem canonical_div? (h : x.div? y = some z) : z.Canonical := by
  rw [div?] at h
  split at h
  case isTrue => simp at h
  case isFalse nonzero =>
    exact canonical_ofRatio
      (Nat.mul_pos x.ratio_den_pos (ratio_num_pos (by simpa using nonzero))) h

/-- Decimals that are read are canonical doubles, with however many steps they are computed. -/
theorem canonical_ofDecimal {significand : ℕ} {exponent : ℤ}
    (h : ofDecimal significand exponent = some x) : x.Canonical := by
  simp only [ofDecimal, Option.bind_eq_bind, Option.bind_eq_some_iff] at h
  obtain ⟨start, -, h⟩ := h
  split at h
  case isTrue => exact Option.some.inj h ▸ .zero
  case isFalse =>
    split at h
    case isTrue =>
      split at h
      case isTrue =>
        obtain ⟨power, -, product⟩ := Option.bind_eq_some_iff.mp h
        exact canonical_mul? product
      case isFalse => simp at h
    case isFalse =>
      obtain ⟨shrunk, -, h⟩ := Option.bind_eq_some_iff.mp h
      split at h
      case isTrue => exact Option.some.inj h ▸ .zero
      case isFalse =>
        obtain ⟨power, -, quotient⟩ := Option.bind_eq_some_iff.mp h
        exact canonical_div? quotient

end Arithmetic

end SignedAdmission.Binary64
