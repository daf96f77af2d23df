import Mathlib.Data.Option.Basic
import SignedAdmission.Bytes.Base64
import SignedAdmission.Bytes.Hex

/-! Texts of bytes are read back as those bytes, in base64 and in hexadecimal digits. -/
namespace SignedAdmission

theorem ofNat_eq_byte {n : Nat} {byte : UInt8} (h : n % 256 = byte.toNat) :
    UInt8.ofNat n = byte := by
  apply UInt8.toNat_inj.mp
  simpa only [UInt8.toNat_ofNat'] using h

namespace Base64

theorem value?_symbol : ∀ n < 64, value? (symbol n) = some n := by
  decide

/-- The padding is no symbol of the alphabet. -/
theorem symbol_ne_pad : ∀ n < 64, symbol n ≠ '=' := by
  decide

theorem last1?_symbols (a : UInt8) :
    last1? (symbol (a.toNat / 4)) (symbol (a.toNat % 4 * 16)) = some [a] := by
  have ha := a.toNat_lt
  have rest : a.toNat % 4 * 16 % 16 = 0 := by omega
  have whole : UInt8.ofNat (a.toNat / 4 * 4 + a.toNat % 4 * 16 / 16) = a :=
    ofNat_eq_byte (by omega)
  rw [last1?, value?_symbol _ (by omega), value?_symbol _ (by omega)]
  simp only [Option.bind_eq_bind, Option.bind_some, (Option.guard_eq_some' ()).2 rest, whole]
  rfl

theorem last2?_symbols (a b : UInt8) (n : Nat) (hn : n = a.toNat * 256 + b.toNat) :
    last2? (symbol (n / 1024)) (symbol (n / 16 % 64)) (symbol (n % 16 * 4)) = some [a, b] := by
  have ha := a.toNat_lt
  have hb := b.toNat_lt
  have rest : n % 16 * 4 % 4 = 0 := by omega
  have joined : (n / 1024 * 64 + n / 16 % 64) * 16 + n % 16 * 4 / 4 = n := by omega
  have first : UInt8.ofNat (n / 256) = a := ofNat_eq_byte (by omega)
  have second : UInt8.ofNat n = b := ofNat_eq_byte (by omega)
  rw [last2?, value?_symbol _ (by omega), value?_symbol _ (by omega), value?_symbol _ (by omega)]
  simp only [Option.bind_eq_bind, Option.bind_some, (Option.guard_eq_some' ()).2 rest, joined,
    first, second]
  rfl

theorem group?_symbols (a b c : UInt8) (n : Nat)
    (hn : n = (a.toNat * 256 + b.toNat) * 256 + c.toNat) :
    group? (symbol (n / 262144)) (symbol (n / 4096 % 64)) (symbol (n / 64 % 64))
      (symbol (n % 64)) = some [a, b, c] := by
  have ha := a.toNat_lt
  have hb := b.toNat_lt
  have hc := c.toNat_lt
  have joined : ((n / 262144 * 64 + n / 4096 % 64) * 64 + n / 64 % 64) * 64 + n % 64 = n := by
    omega
  have first : UInt8.ofNat (n / 65536) = a := ofNat_eq_byte (by omega)
  have second : UInt8.ofNat (n / 256) = b := ofNat_eq_byte (by omega)
  have third : UInt8.ofNat n = c := ofNat_eq_byte (by omega)
  rw [group?, value?_symbol _ (by omega), value?_symbol _ (by omega), value?_symbol _ (by omega),
    value?_symbol _ (by omega)]
  simp only [Option.bind_eq_bind, Option.bind_some, joined, first, second, third]
  rfl

theorem decode?_encode (bytes : List UInt8) : decode? (encode bytes) = some bytes := by
  induction bytes using encode.induct with
  | case1 => rfl
  | case2 a =>
    simp only [encode, decode?, List.isEmpty_nil, and_self, if_true]
    exact last1?_symbols a
  | case3 a b =>
    have ha := a.toNat_lt
    have hb := b.toNat_lt
    have unpadded : symbol ((a.toNat * 256 + b.toNat) % 16 * 4) ≠ '=' :=
      symbol_ne_pad _ (by omega)
    simp only [encode, decode?, List.isEmpty_nil, and_self, if_true, if_neg unpadded]
    exact last2?_symbols a b _ rfl
  | case4 a b c rest ih =>
    have unpadded : symbol (((a.toNat * 256 + b.toNat) * 256 + c.toNat) % 64) ≠ '=' :=
      symbol_ne_pad _ (Nat.mod_lt _ (by omega))
    simp only [encode, decode?, unpadded, false_and, if_false, ih]
    rw [group?_symbols a b c _ rfl]
    rfl

/-- What holds of the alphabet and of the padding holds of every character of a text. -/
theorem forall_mem_encode {p : Char → Prop} (symbols : ∀ n < 64, p (symbol n)) (pad : p '=')
    (bytes : List UInt8) : ∀ c ∈ encode bytes, p c := by
  induction bytes using encode.induct with
  | case1 => simp [encode]
  | case2 a =>
    have ha := a.toNat_lt
    simp only [encode, List.forall_mem_cons]
    exact ⟨symbols _ (by omega), symbols _ (by omega), pad, pad, List.forall_mem_nil p⟩
  | case3 a b =>
    have ha := a.toNat_lt
    have hb := b.toNat_lt
    simp only [encode, List.forall_mem_cons]
    exact ⟨symbols _ (by omega), symbols _ (by omega), symbols _ (by omega), pad,
      List.forall_mem_nil p⟩
  | case4 a b c rest ih =>
    have ha := a.toNat_lt
    have hb := b.toNat_lt
    have hc := c.toNat_lt
    simp only [encode, List.forall_mem_cons]
    exact ⟨symbols _ (by omega), symbols _ (by omega), symbols _ (by omega),
      symbols _ (by omega), ih⟩

end Base64

namespace Hex

theorem value?_digitChar : ∀ n < 16, value? (Nat.digitChar n) = some n := by
  decide

theorem encode_cons (byte : UInt8) (rest : List UInt8) :
    encode (byte :: rest) =
      Nat.digitChar (byte.toNat / 16) :: Nat.digitChar (byte.toNat % 16) :: encode rest :=
  rfl

theorem decodeFrom_encode (bytes : List UInt8) (position : Nat) :
    decodeFrom position (encode bytes) = .ok bytes := by
  induction bytes generalizing position with
  | nil => rfl
  | cons byte rest ih =>
    have hb := byte.toNat_lt
    have high := value?_digitChar (byte.toNat / 16) (by omega)
    have low := value?_digitChar (byte.toNat % 16) (by omega)
    have whole : UInt8.ofNat (byte.toNat / 16 * 16 + byte.toNat % 16) = byte :=
      ofNat_eq_byte (by omega)
    simp only [encode_cons, decodeFrom, high, low, ih, whole]
    rfl

theorem length_encode (bytes : List UInt8) : (encode bytes).length = 2 * bytes.length := by
  induction bytes with
  | nil => rfl
  | cons byte rest ih =>
    simp only [encode_cons, List.length_cons, ih]
    omega

theorem decode_encode (bytes : List UInt8) : decode (encode bytes) = .ok bytes := by
  have even : (encode bytes).length % 2 ≠ 1 := by
    rw [length_encode]
    omega
  rw [decode, if_neg even, decodeFrom_encode]

end Hex

end SignedAdmission
