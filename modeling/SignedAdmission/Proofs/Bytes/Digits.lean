import Mathlib.Data.List.Induction
import SignedAdmission.Proofs.Bytes.RoundTrip
import SignedAdmission.Proofs.Checks

/-! Hexadecimal digits in lowercase. They are what bytes are written in, and reading them and
writing the bytes again gives the same digits. -/
namespace SignedAdmission.Hex

open Checks

def digits : List Char :=
  ['0', '1', '2', '3', '4', '5', '6', '7', '8', '9', 'a', 'b', 'c', 'd', 'e', 'f']

theorem mem_digits {c : Char} (h : (c.isDigit || ('a' ≤ c && c ≤ 'f')) = true) : c ∈ digits := by
  have table : ∀ n < 103, 48 ≤ n ∧ n ≤ 57 ∨ 97 ≤ n → Char.ofNat n ∈ digits := by decide
  rw [← Char.ofNat_toNat c]
  simp only [Char.isDigit, Bool.or_eq_true, Bool.and_eq_true, decide_eq_true_eq, Char.le_def,
    UInt32.le_iff_toNat_le, ge_iff_le] at h
  obtain ⟨low, high⟩ | ⟨low, high⟩ := h
  · change 48 ≤ c.toNat at low
    change c.toNat ≤ 57 at high
    exact table _ (by omega) (.inl ⟨low, high⟩)
  · change 97 ≤ c.toNat at low
    change c.toNat ≤ 102 at high
    exact table _ (by omega) (.inr low)

theorem value?_digit : ∀ c ∈ digits, ∃ n < 16, value? c = some n ∧ Nat.digitChar n = c :=
  List.forall_iff_forall_mem.mp (by decide)

theorem digitChar_mem_digits : ∀ n < 16, Nat.digitChar n ∈ digits := by
  decide

theorem mem_digits_of_mem_encode (bytes : List UInt8) : ∀ c ∈ encode bytes, c ∈ digits := by
  induction bytes with
  | nil => simp [encode]
  | cons byte bytes ih =>
    have bound := byte.toNat_lt
    rw [encode_cons, List.forall_mem_cons, List.forall_mem_cons]
    exact ⟨digitChar_mem_digits _ (by omega), digitChar_mem_digits _ (by omega), ih⟩

theorem encode_of_decodeFrom {position : Nat} {cs : List Char} {bytes : List UInt8}
    (read : decodeFrom position cs = .ok bytes) (lower : ∀ c ∈ cs, c ∈ digits) :
    encode bytes = cs := by
  induction position, cs using decodeFrom.induct generalizing bytes with
  | case1 =>
    cases read
    rfl
  | case2 => contradiction
  | case3 position a b rest unread => simp [decodeFrom, unread] at read
  | case4 position a b rest high unread known => simp [decodeFrom, unread, known] at read
  | case5 position a b rest high low second first ih =>
    simp only [decodeFrom, first, second, bind_eq_ok, pure_eq_ok] at read
    obtain ⟨others, read, rfl⟩ := read
    rw [List.forall_mem_cons, List.forall_mem_cons] at lower
    obtain ⟨a_lower, b_lower, lower⟩ := lower
    obtain ⟨n, n_small, a_value, a_char⟩ := value?_digit a a_lower
    obtain ⟨m, m_small, b_value, b_char⟩ := value?_digit b b_lower
    obtain rfl : n = high := Option.some.inj (a_value.symm.trans first)
    obtain rfl : m = low := Option.some.inj (b_value.symm.trans second)
    have byte : (UInt8.ofNat (n * 16 + m)).toNat = n * 16 + m := by
      rw [UInt8.toNat_ofNat', Nat.mod_eq_of_lt (by omega)]
    have high : (n * 16 + m) / 16 = n := by omega
    have low : (n * 16 + m) % 16 = m := by omega
    rw [encode_cons, byte, high, low, a_char, b_char, ih read lower]

theorem encode_of_decode {cs : List Char} {bytes : List UInt8} (read : decode cs = .ok bytes)
    (lower : ∀ c ∈ cs, c ∈ digits) : encode bytes = cs := by
  rw [decode] at read
  split at read
  · contradiction
  · exact encode_of_decodeFrom read lower

/-- Digits in pairs are the text of some bytes. -/
theorem exists_encode_eq {cs : List Char} (even : cs.length % 2 = 0) (lower : ∀ c ∈ cs, c ∈ digits) :
    ∃ bytes, encode bytes = cs := by
  induction cs using List.twoStepInduction with
  | nil => exact ⟨[], rfl⟩
  | singleton => simp at even
  | cons_cons a b rest ih =>
    rw [List.forall_mem_cons, List.forall_mem_cons] at lower
    obtain ⟨a_lower, b_lower, lower⟩ := lower
    rw [List.length_cons, List.length_cons] at even
    obtain ⟨bytes, rfl⟩ := ih (by omega) lower
    obtain ⟨high, high_small, -, rfl⟩ := value?_digit a a_lower
    obtain ⟨low, low_small, -, rfl⟩ := value?_digit b b_lower
    refine ⟨UInt8.ofNat (high * 16 + low) :: bytes, ?_⟩
    have byte : (UInt8.ofNat (high * 16 + low)).toNat = high * 16 + low := by
      rw [UInt8.toNat_ofNat', Nat.mod_eq_of_lt (by omega)]
    have first : (high * 16 + low) / 16 = high := by omega
    have second : (high * 16 + low) % 16 = low := by omega
    rw [encode_cons, byte, first, second]

theorem encode_injective : Function.Injective encode := by
  intro bytes others same
  have read := decode_encode bytes
  rw [same, decode_encode] at read
  exact (Except.ok.inj read).symm

end SignedAdmission.Hex
