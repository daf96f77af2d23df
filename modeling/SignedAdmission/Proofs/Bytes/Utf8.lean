import Mathlib.Data.String.Basic

/-! The bytes of texts. They determine the text, and they are ordered as texts are. -/
namespace SignedAdmission.Utf8

theorem toList_loop (bytes : ByteArray) (i : Nat) (found : List UInt8) :
    ByteArray.toList.loop bytes i found = found.reverse ++ bytes.data.toList.drop i := by
  fun_induction ByteArray.toList.loop bytes i found with
  | case1 i found inside ih =>
    have bound : i < bytes.data.toList.length := by simpa using inside
    have byte : bytes.get! i = bytes.data.toList[i] := by
      rw [ByteArray.get!, Array.getElem_toList]
      exact getElem!_pos bytes.data i (by simpa using inside)
    rw [ih, byte, List.drop_eq_getElem_cons bound]
    simp
  | case2 i found outside =>
    have past : bytes.data.toList.length ≤ i := by simpa using outside
    simp [List.drop_eq_nil_of_le past]

theorem toList_eq (bytes : ByteArray) : bytes.toList = bytes.data.toList := by
  rw [ByteArray.toList, toList_loop]
  simp

/-- A text is determined by its bytes. -/
theorem toList_toUTF8_injective {text other : String}
    (h : text.toUTF8.toList = other.toUTF8.toList) : text = other := by
  rw [toList_eq, toList_eq] at h
  exact String.toByteArray_inj.mp (ByteArray.ext (Array.toList_inj.mp h))

/-- What the bytes of a text are read as is the text. -/
theorem fromUTF8?_toUTF8 (text : String) :
    String.fromUTF8? text.toUTF8.toList.toByteArray = some text := by
  have same : text.toUTF8.toList.toByteArray = text.toUTF8 := by
    rw [toList_eq]
    exact ByteArray.ext List.data_toByteArray
  rw [same, String.fromUTF8?]
  exact dif_pos text.isValidUTF8

/-- Only the bytes of a text are read as that text. -/
theorem fromUTF8?_eq_some_iff {bytes : List UInt8} {text : String} :
    String.fromUTF8? bytes.toByteArray = some text ↔ bytes = text.toUTF8.toList := by
  constructor
  · intro read
    obtain ⟨valid, same⟩ := Option.dite_none_right_eq_some.mp read
    obtain rfl := Option.some.inj same
    rw [toList_eq]
    exact List.toList_data_toByteArray.symm
  · rintro rfl
    exact fromUTF8?_toUTF8 text

section Order

theorem toList_toUTF8 (text : String) :
    text.toUTF8.toList = text.toList.flatMap String.utf8EncodeChar := by
  have encoded : text.toUTF8 = text.toList.utf8Encode := String.utf8Encode_toList.symm
  rw [toList_eq, encoded, List.utf8Encode, List.toList_data_toByteArray]

theorem val_lt (c : Char) : c.val.toNat < 1114112 := by
  have valid := c.valid
  simp only [UInt32.isValidChar, Nat.isValidChar] at valid
  omega

/-- What begins with the bytes of a smaller character is smaller, whatever follows. -/
theorem utf8EncodeChar_append_lt {a b : Char} (h : a < b) (s t : List UInt8) :
    String.utf8EncodeChar a ++ s < String.utf8EncodeChar b ++ t := by
  have less : a.val.toNat < b.val.toNat := h
  have bound := val_lt b
  -- One case for every two lengths. A longer form has a larger first byte.
  rw [String.utf8EncodeChar.eq_1, String.utf8EncodeChar.eq_1]
  split_ifs <;>
    simp only [List.cons_append, List.nil_append, List.cons_lt_cons_iff, UInt8.lt_iff_toNat_lt,
      ← UInt8.toNat_inj, UInt8.toNat_ofNat'] <;>
    simp (disch := omega) only [Nat.mod_eq_of_lt] <;>
    omega

theorem flatMap_lt {cs ds : List Char} (h : cs < ds) :
    cs.flatMap String.utf8EncodeChar < ds.flatMap String.utf8EncodeChar := by
  induction h with
  | @nil d ds =>
    obtain ⟨byte, rest, bytes⟩ := List.exists_cons_of_ne_nil (@String.utf8EncodeChar_ne_nil d)
    rw [List.flatMap_nil, List.flatMap_cons, bytes]
    exact List.nil_lt_cons _ _
  | cons _ ih =>
    rw [List.flatMap_cons, List.flatMap_cons]
    exact List.append_left_lt ih
  | rel less =>
    rw [List.flatMap_cons, List.flatMap_cons]
    exact utf8EncodeChar_append_lt less _ _

/-- Texts are ordered as their bytes are. -/
theorem toList_toUTF8_lt_iff {text other : String} :
    text.toUTF8.toList < other.toUTF8.toList ↔ text < other := by
  have mono {text other : String} (h : text < other) :
      text.toUTF8.toList < other.toUTF8.toList := by
    rw [toList_toUTF8, toList_toUTF8]
    exact flatMap_lt (String.lt_iff_toList_lt.mp h)
  refine ⟨fun h => ?_, mono⟩
  by_contra greater
  obtain rfl | apart := eq_or_ne text other
  · exact List.lt_irrefl _ h
  · exact List.lt_asymm h (mono (Std.lt_of_le_of_ne (String.not_lt.mp greater) apart.symm))

end Order

section Prefixes

/-- The first character of a text is told from its bytes. -/
theorem utf8EncodeChar_append_inj {a b : Char} {s t : List UInt8}
    (same : String.utf8EncodeChar a ++ s = String.utf8EncodeChar b ++ t) : a = b := by
  by_contra apart
  obtain less | greater := Nat.lt_or_gt_of_ne fun h => apart (Char.ext (UInt32.toNat_inj.mp h))
  · have order := utf8EncodeChar_append_lt less s t
    rw [same] at order
    exact List.lt_irrefl _ order
  · have order := utf8EncodeChar_append_lt greater t s
    rw [same] at order
    exact List.lt_irrefl _ order

theorem flatMap_prefix_iff {cs ds : List Char} :
    cs.flatMap String.utf8EncodeChar <+: ds.flatMap String.utf8EncodeChar ↔ cs <+: ds := by
  constructor
  · intro starts
    induction cs generalizing ds with
    | nil => exact List.nil_prefix
    | cons c cs ih =>
      obtain ⟨rest, same⟩ := starts
      cases ds with
      | nil =>
        rw [List.flatMap_cons, List.flatMap_nil, List.append_assoc, List.append_eq_nil_iff] at same
        exact absurd same.1 String.utf8EncodeChar_ne_nil
      | cons d ds =>
        rw [List.flatMap_cons, List.flatMap_cons, List.append_assoc] at same
        obtain rfl := utf8EncodeChar_append_inj same
        rw [List.prefix_cons_inj]
        exact ih ⟨rest, List.append_cancel_left same⟩
  · rintro ⟨rest, rfl⟩
    rw [List.flatMap_append]
    exact List.prefix_append ..

/-- A text begins with another one exactly if its bytes do. -/
theorem toList_toUTF8_prefix_iff {text other : String} :
    text.toUTF8.toList <+: other.toUTF8.toList ↔ text.toList <+: other.toList := by
  rw [toList_toUTF8, toList_toUTF8, flatMap_prefix_iff]

end Prefixes

end SignedAdmission.Utf8
