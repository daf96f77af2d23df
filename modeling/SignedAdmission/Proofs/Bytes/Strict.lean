import Mathlib.Tactic.SplitIfs
import SignedAdmission.Proofs.Bytes.RoundTrip

/-! Strictness of base64. Bytes are read from no other text than the one that is written for them,
so that two texts stand for the same bytes only if they are the same. -/
namespace SignedAdmission.Base64

variable {a b c d : Char} {bytes : List UInt8} {n : Nat}

/-- The alphabet in numbers, by its three ranges and two marks. -/
theorem value?_eq_ite (c : Char) :
    value? c =
      if 65 ≤ c.toNat ∧ c.toNat ≤ 90 then some (c.toNat - 65)
      else if 97 ≤ c.toNat ∧ c.toNat ≤ 122 then some (c.toNat - 97 + 26)
      else if 48 ≤ c.toNat ∧ c.toNat ≤ 57 then some (c.toNat - 48 + 52)
      else if c = '+' then some 62 else if c = '/' then some 63 else none := by
  simp only [value?, Char.le_def, UInt32.le_iff_toNat_le]
  rfl

/-- Every character with a value is the symbol of that value. -/
theorem symbol_of_value? (read : value? c = some n) : n < 64 ∧ symbol n = c := by
  have capital : 'A'.toNat = 65 := rfl
  have small : 'a'.toNat = 97 := rfl
  have digit : '0'.toNat = 48 := rfl
  have shifted {m : Nat} (same : m = c.toNat) : Char.ofNat m = c := by
    rw [same, Char.ofNat_toNat]
  rw [value?_eq_ite] at read
  split_ifs at read with capitals smalls digits plus slash
  all_goals obtain rfl := Option.some.inj read
  · refine ⟨by omega, ?_⟩
    rw [symbol, if_pos (by omega)]
    exact shifted (by omega)
  · refine ⟨by omega, ?_⟩
    rw [symbol, if_neg (by omega), if_pos (by omega)]
    exact shifted (by omega)
  · refine ⟨by omega, ?_⟩
    rw [symbol, if_neg (by omega), if_neg (by omega), if_pos (by omega)]
    exact shifted (by omega)
  · exact ⟨by omega, plus.symm⟩
  · exact ⟨by omega, slash.symm⟩

theorem toNat_ofNat_of_lt (small : n < 256) : (UInt8.ofNat n).toNat = n := by
  rw [UInt8.toNat_ofNat', Nat.mod_eq_of_lt small]

/-- Two symbols before two pads are those of the byte they are read as. -/
theorem encode_of_last1? (read : last1? a b = some bytes) : encode bytes = [a, b, '=', '='] := by
  simp only [last1?, Option.bind_eq_bind, Option.bind_eq_some_iff, Option.guard_eq_some',
    exists_const] at read
  obtain ⟨x, first, y, second, rest, same⟩ := read
  obtain rfl := Option.some.inj same
  obtain ⟨x_small, rfl⟩ := symbol_of_value? first
  obtain ⟨y_small, rfl⟩ := symbol_of_value? second
  rw [encode, toNat_ofNat_of_lt (by omega)]
  have high : (x * 4 + y / 16) / 4 = x := by omega
  have low : (x * 4 + y / 16) % 4 * 16 = y := by omega
  rw [high, low]

/-- Three symbols before one pad are those of the two bytes they are read as. -/
theorem encode_of_last2? (read : last2? a b c = some bytes) : encode bytes = [a, b, c, '='] := by
  simp only [last2?, Option.bind_eq_bind, Option.bind_eq_some_iff, Option.guard_eq_some',
    exists_const] at read
  obtain ⟨x, first, y, second, z, third, rest, same⟩ := read
  obtain rfl := Option.some.inj same
  obtain ⟨x_small, rfl⟩ := symbol_of_value? first
  obtain ⟨y_small, rfl⟩ := symbol_of_value? second
  obtain ⟨z_small, rfl⟩ := symbol_of_value? third
  generalize number : (x * 64 + y) * 16 + z / 4 = n
  have joined : (UInt8.ofNat (n / 256)).toNat * 256 + (UInt8.ofNat n).toNat = n := by
    rw [toNat_ofNat_of_lt (by omega), UInt8.toNat_ofNat']
    omega
  have high : n / 1024 = x := by omega
  have middle : n / 16 % 64 = y := by omega
  have low : n % 16 * 4 = z := by omega
  simp only [encode, joined, high, middle, low]

/-- Four symbols are those of the three bytes they are read as. -/
theorem encode_of_group? {rest : List UInt8} (read : group? a b c d = some bytes) :
    encode (bytes ++ rest) = a :: b :: c :: d :: encode rest := by
  simp only [group?, Option.bind_eq_bind, Option.bind_eq_some_iff] at read
  obtain ⟨x, first, y, second, z, third, w, fourth, same⟩ := read
  obtain rfl := Option.some.inj same
  obtain ⟨x_small, rfl⟩ := symbol_of_value? first
  obtain ⟨y_small, rfl⟩ := symbol_of_value? second
  obtain ⟨z_small, rfl⟩ := symbol_of_value? third
  obtain ⟨w_small, rfl⟩ := symbol_of_value? fourth
  generalize number : ((x * 64 + y) * 64 + z) * 64 + w = n
  have joined : ((UInt8.ofNat (n / 65536)).toNat * 256 + (UInt8.ofNat (n / 256)).toNat) * 256 +
      (UInt8.ofNat n).toNat = n := by
    rw [toNat_ofNat_of_lt (by omega), UInt8.toNat_ofNat', UInt8.toNat_ofNat']
    omega
  have highest : n / 262144 = x := by omega
  have high : n / 4096 % 64 = y := by omega
  have low : n / 64 % 64 = z := by omega
  have lowest : n % 64 = w := by omega
  simp only [List.cons_append, List.nil_append, encode, joined, highest, high, low, lowest]

theorem encode_of_decode? {cs : List Char} (read : decode? cs = some bytes) :
    encode bytes = cs := by
  induction cs using decode?.induct generalizing bytes with
  | case1 =>
    obtain rfl := Option.some.inj read
    rfl
  | case2 a b d rest last =>
    obtain ⟨rfl, empty⟩ := last
    obtain rfl := List.isEmpty_iff.mp empty
    exact encode_of_last1? (by simpa [decode?] using read)
  | case3 a b c d rest last unpadded =>
    obtain ⟨rfl, empty⟩ := last
    obtain rfl := List.isEmpty_iff.mp empty
    exact encode_of_last2? (by simpa [decode?, unpadded] using read)
  | case4 a b c d rest more ih =>
    rw [decode?, if_neg more] at read
    simp only [Option.bind_eq_bind, Option.bind_eq_some_iff] at read
    obtain ⟨start, first, others, later, same⟩ := read
    obtain rfl := Option.some.inj same
    rw [encode_of_group? first, ih later]
  | case5 cs short unread => simp_all [decode?]

/-- Bytes have one accepted text. -/
theorem decode?_eq_some_iff {cs : List Char} : decode? cs = some bytes ↔ cs = encode bytes := by
  constructor
  · intro read
    exact (encode_of_decode? read).symm
  · rintro rfl
    exact decode?_encode bytes

end SignedAdmission.Base64
