import SignedAdmission.Proofs.Bytes.Digits
import SignedAdmission.Proofs.Reference.Canonical

/-! References that are pinned to bytes. The canonical text of one is accepted only if the bytes are
as many as a digest has. -/
namespace SignedAdmission

namespace Text

/-- ASCII text is mapped one character at a time. -/
theorem lowercaseFrom_ascii {before cs : List Char} (ascii : ∀ c ∈ cs, c.toNat < 0x80) :
    lowercaseFrom before cs = cs.map Char.toLower := by
  induction cs generalizing before with
  | nil => rfl
  | cons c cs ih =>
    rw [List.forall_mem_cons] at ascii
    have sigma : c ≠ 'Σ' := by
      rintro rfl
      exact absurd ascii.1 (by decide)
    have dotted : c ≠ 'İ' := by
      rintro rfl
      exact absurd ascii.1 (by decide)
    rw [lowercaseFrom, ih ascii.2]
    simp [sigma, dotted, ascii.1]

end Text

namespace Reference

/-- The number of bytes that a digest is written for. -/
def digestBytes : Nat := 32

variable {r : Reference} {bytes : List UInt8}

theorem isDigest_iff_mem_digits {cs : List Char} :
    isDigest cs = true ↔ cs.length = digestLength ∧ ∀ c ∈ cs, c ∈ Hex.digits := by
  have digit : ∀ c ∈ Hex.digits, (c.isDigit || ('a' ≤ c && c ≤ 'f')) = true :=
    List.forall_iff_forall_mem.mp (by decide)
  rw [isDigest, Bool.and_eq_true, beq_iff_eq, List.all_eq_true]
  exact and_congr_right fun _ => ⟨fun digits c member => Hex.mem_digits (digits c member),
    fun digits c member => digit c (digits c member)⟩

theorem mem_digits_of_isDigest {cs : List Char} (h : isDigest cs = true) :
    ∀ c ∈ cs, c ∈ Hex.digits :=
  (isDigest_iff_mem_digits.mp h).2

theorem isDigest_encode : isDigest (Hex.encode bytes) = true ↔ bytes.length = digestBytes := by
  rw [isDigest_iff_mem_digits, and_iff_left (Hex.mem_digits_of_mem_encode bytes),
    Hex.length_encode, digestLength, digestBytes]
  omega

/-- A digest is the text of just the bytes that it is read as. -/
theorem encode_of_isDigest {cs : List Char} (h : isDigest cs = true)
    (read : Hex.decode cs = .ok bytes) : Hex.encode bytes = cs ∧ bytes.length = digestBytes := by
  have same := Hex.encode_of_decode read (mem_digits_of_isDigest h)
  exact ⟨same, isDigest_encode.mp (same ▸ h)⟩

/-- Every digest is the text of some bytes. -/
theorem exists_of_isDigest {cs : List Char} (h : isDigest cs = true) :
    ∃ bytes, cs = Hex.encode bytes ∧ bytes.length = digestBytes := by
  obtain ⟨length, lower⟩ := isDigest_iff_mem_digits.mp h
  have even : cs.length % 2 = 0 := by rw [length, digestLength]
  obtain ⟨bytes, rfl⟩ := Hex.exists_encode_eq even lower
  exact ⟨bytes, rfl, isDigest_encode.mp h⟩

section Digits

variable {cs : List Char}

/-- Digits that begin with their algorithm are taken over without it, in lowercase. -/
theorem setDigest_marked (r : Reference) (ascii : ∀ c ∈ cs, c.toNat < 0x80) :
    r.setDigest (digestStart ++ String.ofList cs) =
      { r with digest := some (String.ofList (cs.map Char.toLower)) } := by
  have dropped : Text.dropStart? digestStart.toList (digestStart.toList ++ cs) = some cs :=
    Text.dropStart?_eq_some.mpr rfl
  rw [setDigest, String.toList_append, String.toList_ofList, dropped, Option.getD_some,
    Text.lowercase, Text.lowercaseFrom_ascii ascii]

/-- Digits are taken over in lowercase. -/
theorem setDigest_unmarked (r : Reference) (ascii : ∀ c ∈ cs, c.toNat < 0x80) (unmarked : 's' ∉ cs) :
    r.setDigest (String.ofList cs) =
      { r with digest := some (String.ofList (cs.map Char.toLower)) } := by
  have bare : Text.dropStart? digestStart.toList cs = none := by
    rw [Option.eq_none_iff_forall_ne_some]
    intro rest dropped
    rw [Text.dropStart?_eq_some.mp dropped] at unmarked
    exact unmarked (by simp [digestStart])
  rw [setDigest, String.toList_ofList, bare, Option.getD_none, Text.lowercase,
    Text.lowercaseFrom_ascii ascii]

/-- Hexadecimal digits in lowercase are taken over as they are. -/
theorem setDigest_digits (r : Reference) (lower : ∀ c ∈ cs, c ∈ Hex.digits) :
    r.setDigest (String.ofList cs) = { r with digest := some (String.ofList cs) } := by
  have kept : ∀ c ∈ Hex.digits, c.toNat < 0x80 ∧ c.toLower = c :=
    List.forall_iff_forall_mem.mp (by decide)
  have same : ∀ c ∈ cs, c.toLower = c := fun c member => (kept c (lower c member)).2
  have unmarked : 's' ∉ cs := fun member => absurd (lower 's' member) (by decide)
  rw [r.setDigest_unmarked (fun c member => (kept c (lower c member)).1) unmarked,
    List.map_congr_left same, List.map_id']

end Digits

theorem setDigest_encode (r : Reference) (bytes : List UInt8) :
    r.setDigest (String.ofList (Hex.encode bytes)) =
      { r with digest := some (String.ofList (Hex.encode bytes)) } :=
  r.setDigest_digits (Hex.mem_digits_of_mem_encode bytes)

theorem WellNamed.setDigest (h : r.WellNamed) (digest : String) : (r.setDigest digest).WellNamed :=
  ⟨h.registry, h.path, h.elsewhere, h.name, h.tag⟩

/-- What is written into a patch is a reference again, if the bytes are as many as a digest has and
the name is not too long. -/
theorem WellNamed.parse_pinned (h : r.WellNamed) :
    parse (r.setDigest (String.ofList (Hex.encode bytes))).canonical =
        .ok (r.setDigest (String.ofList (Hex.encode bytes))) ↔
      bytes.length = digestBytes ∧ r.repositoryPath.length ≤ maxNameLength := by
  have named := h.setDigest (String.ofList (Hex.encode bytes))
  rw [named.parse_canonical_eq_ok (by simp [setDigest_encode]), setDigest_encode]
  simp [isDigest_encode, repositoryPath]

/-- A reference that is read from some text and pinned to a digest is read back from the text that
is written for it. -/
theorem parse_setDigest {text digest : String} (parsed : parse text = .ok r)
    (valid : isDigest digest.toList = true) (short : r.repositoryPath.length ≤ maxNameLength) :
    parse (r.setDigest digest).canonical = .ok (r.setDigest digest) := by
  have named := (wellFormed_of_parse parsed).toWellNamed.setDigest digest
  have pinned := r.setDigest_digits (mem_digits_of_isDigest valid)
  rw [String.ofList_toList] at pinned
  rw [named.parse_canonical_eq_ok (by simp [pinned]), pinned]
  exact ⟨by simpa using valid, short⟩

end Reference

end SignedAdmission
