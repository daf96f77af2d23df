import SignedAdmission.Key.P256
import SignedAdmission.Key.Rsa
import SignedAdmission.Proofs.Bytes.Number

/-! Values that are written in the distinguished encoding are read back, whatever follows them, as
long as they are not too long for the reader. -/
namespace SignedAdmission

namespace Der

open Bytes (number magnitude)

variable {tag other : UInt8} {content rest algorithm key : List UInt8} {n a b : ℕ}

section Tagged

theorem length?_lengthBytes (fits : n ≤ maxLength) (rest : List UInt8) :
    length? (lengthBytes n ++ rest) = some (n, rest) := by
  by_cases short : n < 0x80
  · have byte : (UInt8.ofNat n).toNat = n := Base64.toNat_ofNat_of_lt (by omega)
    have first : UInt8.ofNat n < 0x80 := by
      rw [UInt8.lt_iff_toNat_lt, byte]
      exact short
    rw [lengthBytes, if_pos short, List.singleton_append, length?, if_pos first, byte]
  · have few : (magnitude n).length ≤ 4 :=
      Bytes.length_magnitude_le (fits.trans_lt (by decide))
    have byte : (UInt8.ofNat (0x80 + (magnitude n).length)).toNat = 0x80 + (magnitude n).length :=
      Base64.toNat_ofNat_of_lt (by omega)
    have long : ¬ UInt8.ofNat (0x80 + (magnitude n).length) < 0x80 := by
      rw [UInt8.lt_iff_toNat_lt, byte]
      exact Nat.not_lt.mpr (Nat.le_add_right _ _)
    have written : lengthBytes n =
        UInt8.ofNat (0x80 + (magnitude n).length) :: magnitude n := if_neg short
    rw [written, List.cons_append, length?, if_neg long]
    simp only [byte, Nat.add_sub_cancel_left, List.take_left, List.drop_left,
      Bytes.number_magnitude]
    rw [if_pos ⟨by simp, fits, written⟩]

theorem tagged_append (tag : UInt8) (content rest : List UInt8) :
    tagged tag content ++ rest = tag :: (lengthBytes content.length ++ (content ++ rest)) := by
  simp [tagged]

theorem tagged?_tagged (tag : UInt8) (fits : content.length ≤ maxLength) (rest : List UInt8) :
    tagged? tag (tagged tag content ++ rest) = some (content, rest) := by
  rw [tagged_append, tagged?]
  simp [length?_lengthBytes fits]

theorem tagged?_of_ne (different : other ≠ tag) (content rest : List UInt8) :
    tagged? other (tagged tag content ++ rest) = none := by
  rw [tagged_append, tagged?]
  simp [different.symm]

theorem only?_tagged (tag : UInt8) (fits : content.length ≤ maxLength) :
    only? tag (tagged tag content) = some content := by
  have read := tagged?_tagged tag fits []
  rw [List.append_nil] at read
  simp [only?, read]

theorem length_lengthBytes_le (fits : n ≤ maxLength) : (lengthBytes n).length ≤ 5 := by
  have few : (magnitude n).length ≤ 4 := Bytes.length_magnitude_le (fits.trans_lt (by decide))
  rw [lengthBytes]
  split
  · simp
  · rw [List.length_cons]
    omega

theorem length_tagged_le (tag : UInt8) (fits : content.length ≤ maxLength) :
    (tagged tag content).length ≤ content.length + 6 := by
  have few := length_lengthBytes_le fits
  rw [← List.append_nil (tagged tag content), tagged_append, List.append_nil, List.length_cons,
    List.length_append]
  omega

end Tagged

section Numbers

theorem number_unsignedContent (n : ℕ) : number (unsignedContent n) = n := by
  have whole := Bytes.number_magnitude n
  rw [unsignedContent]
  split
  case h_1 empty =>
    rw [empty] at whole
    exact whole
  case h_2 first rest bytes =>
    rw [bytes] at whole
    split
    · exact whole
    · rw [Bytes.number_cons, whole]
      simp

theorem length_unsignedContent_le (n : ℕ) :
    (unsignedContent n).length ≤ (magnitude n).length + 1 := by
  rw [unsignedContent]
  split
  case h_1 empty => simp
  case h_2 first rest bytes =>
    rw [bytes]
    split <;> simp

theorem unsigned?_unsigned (fits : (magnitude n).length < maxLength) (rest : List UInt8) :
    unsigned? (unsigned n ++ rest) = some (n, rest) := by
  have content_fits : (unsignedContent n).length ≤ maxLength :=
    (length_unsignedContent_le n).trans fits
  rw [unsigned?, unsigned, tagged?_tagged _ content_fits]
  simp [number_unsignedContent]

theorem length_unsigned_le (fits : (magnitude n).length < maxLength) :
    (unsigned n).length ≤ (magnitude n).length + 7 := by
  have content_le := length_unsignedContent_le n
  have whole := length_tagged_le integerTag (content_le.trans fits)
  rw [unsigned]
  omega

/-- Two numbers that the reader of pairs takes. -/
def Readable (a b : ℕ) : Prop :=
  (magnitude a).length + (magnitude b).length + 14 ≤ maxLength

variable (readable : Readable a b)

include readable

theorem only?_pair : only? sequenceTag (pair a b) = some (unsigned a ++ unsigned b) := by
  rw [Readable] at readable
  have first_le := length_unsigned_le (n := a) (by omega)
  have second_le := length_unsigned_le (n := b) (by omega)
  rw [pair, only?_tagged]
  rw [List.length_append]
  omega

theorem pair?_pair : pair? (pair a b) = some (a, b) := by
  have body := only?_pair readable
  rw [Readable] at readable
  have first := unsigned?_unsigned (n := a) (by omega) (unsigned b)
  have second := unsigned?_unsigned (n := b) (by omega) []
  rw [List.append_nil] at second
  rw [pair?, body]
  simp [first, second]

/-- A pair of numbers is no public key info, as its first part is no sequence. -/
theorem publicKeyInfo?_pair (algorithm : List UInt8) :
    publicKeyInfo? algorithm (pair a b) = none := by
  have other : tagged? sequenceTag (unsigned a ++ unsigned b) = none :=
    tagged?_of_ne (by decide) _ _
  rw [publicKeyInfo?, only?_pair readable]
  simp [other]

end Numbers

section Keys

theorem publicKeyInfo?_publicKeyInfo
    (fits : algorithm.length + key.length + 13 ≤ maxLength) :
    publicKeyInfo? algorithm (publicKeyInfo algorithm key) = some key := by
  have algorithm_fits : algorithm.length ≤ maxLength := by omega
  have key_fits : (0 :: key).length ≤ maxLength := by
    rw [List.length_cons]
    omega
  have algorithm_le := length_tagged_le sequenceTag algorithm_fits
  have key_le := length_tagged_le bitStringTag key_fits
  rw [List.length_cons] at key_le
  have body_fits :
      (tagged sequenceTag algorithm ++ tagged bitStringTag (0 :: key)).length ≤ maxLength := by
    rw [List.length_append]
    omega
  rw [publicKeyInfo?, publicKeyInfo, only?_tagged _ body_fits]
  simp [tagged?_tagged _ algorithm_fits, only?_tagged _ key_fits]

/-- A public key info is a sequence, and a pair as well. -/
theorem head_of_publicKeyInfo? {bytes : List UInt8}
    (read : publicKeyInfo? algorithm bytes = some key) : bytes.head? = some sequenceTag := by
  cases bytes with
  | nil => contradiction
  | cons first rest =>
    by_cases same : first = sequenceTag
    · rw [same, List.head?_cons]
    · simp [publicKeyInfo?, only?, tagged?, same] at read

theorem head_pair (a b : ℕ) : (pair a b).head? = some sequenceTag := rfl

end Keys

end Der

namespace P256.Point

variable (point : Point)

theorem coordinates_lt : point.x < 256 ^ width ∧ point.y < 256 ^ width := by
  have onCurve := point.onCurve
  simp only [isOnCurve, Bool.and_eq_true, decide_eq_true_eq] at onCurve
  have field : p < 256 ^ width := by decide
  exact ⟨onCurve.1.1.trans field, onCurve.1.2.trans field⟩

theorem ofCoordinates?_coordinates : ofCoordinates? point.x point.y = some point :=
  dif_pos point.onCurve

theorem ofBytes?_bytes : ofBytes? point.bytes = some point := by
  obtain ⟨x_fits, y_fits⟩ := point.coordinates_lt
  have split : point.bytes = 0x04 ::
      (Bytes.bigEndian width point.x ++ Bytes.bigEndian width point.y) := rfl
  rw [split, ofBytes?]
  simp only [List.length_append, Bytes.length_bigEndian, ← Nat.two_mul, and_self, if_true,
    List.take_left' (Bytes.length_bigEndian width point.x),
    List.drop_left' (Bytes.length_bigEndian width point.x),
    Bytes.number_bigEndian_of_lt x_fits, Bytes.number_bigEndian_of_lt y_fits,
    ofCoordinates?_coordinates]

theorem ofDer?_der : ofDer? point.der = some point := by
  have fits : algorithm.length + point.bytes.length + 13 ≤ Der.maxLength := by
    simp [bytes, algorithm, width, Der.maxLength]
  rw [ofDer?, der, Der.publicKeyInfo?_publicKeyInfo fits]
  exact ofBytes?_bytes point

end P256.Point

namespace Rsa.PublicKey

variable (key : PublicKey)

theorem readable : Der.Readable key.modulus key.exponent := by
  have valid := key.valid
  simp only [isValid, Bool.and_eq_true, decide_eq_true_eq] at valid
  obtain ⟨⟨⟨⟨⟨modulus_lt, -⟩, -⟩, -⟩, -⟩, exponent_lt⟩ := valid
  have bits : Nat.pow 2 maxModulusBits = 256 ^ 512 := by decide +kernel
  have modulus_le := Bytes.length_magnitude_le (modulus_lt.trans_eq bits)
  have exponent_le : (Bytes.magnitude key.exponent).length ≤ 5 :=
    Bytes.length_magnitude_le (exponent_lt.trans (by decide))
  rw [Der.Readable, Der.maxLength]
  omega

theorem ofNumbers?_numbers : ofNumbers? key.modulus key.exponent = some key := by
  rw [ofNumbers?, dif_pos key.valid]

theorem ofDer?_der : ofDer? key.der = some key := by
  rw [ofDer?, der, Der.pair?_pair key.readable, Option.bind_eq_bind, Option.bind_some]
  exact key.ofNumbers?_numbers

theorem ofInfo?_der : ofInfo? key.der = none := by
  rw [ofInfo?, der, Der.publicKeyInfo?_pair key.readable]
  rfl

end Rsa.PublicKey

theorem P256.Point.ofDer?_rsa (key : Rsa.PublicKey) : ofDer? key.der = none := by
  rw [ofDer?, Rsa.PublicKey.der, Der.publicKeyInfo?_pair key.readable]
  rfl

end SignedAdmission
