import Mathlib.Logic.Basic

/-! The decimal digits of natural numbers: digits without a superfluous leading zero are the ones
that their number is printed with. -/
namespace SignedAdmission.Decimal

/-- The value of a digit is below ten, and the digit of that value is the digit itself. -/
theorem digit_value {c : Char} (h : c.isDigit = true) :
    c.toNat - '0'.toNat < 10 ∧ Nat.digitChar (c.toNat - '0'.toNat) = c := by
  have range : 48 ≤ c.toNat ∧ c.toNat ≤ 57 := by
    simp only [Char.isDigit, ge_iff_le, Bool.and_eq_true, decide_eq_true_eq] at h
    exact h
  have zero : '0'.toNat = 48 := rfl
  have digits : ∀ n ∈ List.range 10, Nat.digitChar n = Char.ofNat (48 + n) := by decide
  have small : c.toNat - '0'.toNat < 10 := by omega
  refine ⟨small, ?_⟩
  rw [digits _ (List.mem_range.mpr small), zero, Nat.add_sub_cancel' range.1, Char.ofNat_toNat]

/-- Digits that follow a positive number are the last digits of a larger one. -/
theorem toDigits_append {cs : List Char} {n : Nat} (positive : 0 < n)
    (digits : ∀ c ∈ cs, c.isDigit = true) :
    Nat.toDigits 10 n ++ cs = Nat.toDigits 10 (Nat.ofDigitChars 10 cs n) := by
  induction cs generalizing n with
  | nil => simp
  | cons c cs ih =>
    rw [List.forall_mem_cons] at digits
    obtain ⟨small, same⟩ := digit_value digits.1
    have step := Nat.toDigits_append_toDigits (by decide) positive small
    rw [Nat.toDigits_of_lt_base small, same] at step
    rw [Nat.ofDigitChars_cons, ← ih (by omega) digits.2, ← step, List.append_assoc,
      List.singleton_append]

theorem toDigits_ofDigitChars {c : Char} {cs : List Char}
    (digits : ∀ d ∈ c :: cs, d.isDigit = true) (canonical : c = '0' → cs = []) :
    Nat.toDigits 10 (Nat.ofDigitChars 10 (c :: cs) 0) = c :: cs := by
  rw [List.forall_mem_cons] at digits
  obtain ⟨small, same⟩ := digit_value digits.1
  have first : Nat.toDigits 10 (c.toNat - '0'.toNat) = [c] := by
    rw [Nat.toDigits_of_lt_base small, same]
  rw [Nat.ofDigitChars_cons, Nat.mul_zero, Nat.zero_add]
  by_cases zero : c.toNat - '0'.toNat = 0
  · rw [zero] at same
    rw [canonical same.symm, Nat.ofDigitChars_nil, first]
  · rw [← toDigits_append (Nat.pos_of_ne_zero zero) digits.2, first, List.singleton_append]

theorem head?_toDigits {n : Nat} (positive : 0 < n) : (Nat.toDigits 10 n).head? ≠ some '0' := by
  induction n using Nat.strongRecOn with
  | ind n ih =>
    rw [Nat.toDigits_eq_if (by decide)]
    split
    case isTrue small =>
      have digits : ∀ n ∈ List.range 10, Nat.digitChar n = '0' → n = 0 := by decide
      intro zero
      have := digits n (List.mem_range.mpr small) (by simpa using zero)
      omega
    case isFalse large =>
      rw [List.head?_append, Option.or_of_isSome (by simp [Nat.toDigits_ne_nil])]
      exact ih (n / 10) (by omega) (by omega)

theorem isDigit_of_mem_toDigits {n : Nat} : ∀ c ∈ Nat.toDigits 10 n, c.isDigit = true :=
  fun _ => Nat.isDigit_of_mem_toDigits (by decide) (by decide)

end SignedAdmission.Decimal
