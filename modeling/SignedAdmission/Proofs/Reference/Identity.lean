import SignedAdmission.Proofs.Reference.Acceptance
import SignedAdmission.Proofs.Reference.Pinned

/-! What canonical texts tell apart. Two references that come from parsed ones are the same exactly
if their canonical texts are, whatever texts they have been pinned to, and a reference that is
pinned to the digits of a digest is read back from its canonical text. -/
namespace SignedAdmission.Reference

section Texts

variable {r other : Reference}

theorem spelling_injective : Function.Injective spelling := by
  intro r other same
  rw [spelling, spelling, Spelling.mk.injEq, List.cons.injEq] at same
  obtain ⟨⟨registry, path⟩, name, tag, digest⟩ := same
  have repository : r.repository.toList = other.repository.toList := by
    rw [← r.join_path, ← other.join_path, path]
  have texts : Function.Injective (Option.map String.toList) :=
    Option.map_injective fun _ _ => String.toList_injective
  cases r
  cases other
  simp only [mk.injEq]
  exact ⟨String.toList_injective registry, String.toList_injective repository,
    String.toList_injective name, texts tag, texts digest⟩

/-- The parts before the digest hold no `@`, so that the first one ends them, and the digest is all
that is left, whatever characters it has. -/
theorem WellNamed.eq_of_canonical (h : r.WellNamed) (h' : other.WellNamed)
    (same : r.canonical = other.canonical) : r = other := by
  have texts : r.spelling.text = other.spelling.text := by
    rw [← canonical_toList, ← canonical_toList, same]
  exact spelling_injective (h.named.eq_of_text h'.named texts)

/-- References that are read from a text, or pinned to any text after that, any number of times. -/
inductive Obtained : Reference → Prop
  | parsed {text : String} {r : Reference} (read : parse text = .ok r) : Obtained r
  | pinned {r : Reference} (before : Obtained r) (digest : String) : Obtained (r.setDigest digest)

theorem Obtained.wellNamed (h : Obtained r) : r.WellNamed := by
  induction h with
  | parsed read => exact (wellFormed_of_parse read).toWellNamed
  | pinned _ digest named => exact named.setDigest digest

/-- References that come from parsing and from setting digests are equal exactly if their canonical
texts are. -/
theorem eq_iff_canonical_eq (h : Obtained r) (h' : Obtained other) :
    r = other ↔ r.canonical = other.canonical := by
  constructor
  · rintro rfl
    rfl
  · intro same
    exact h.wellNamed.eq_of_canonical h'.wellNamed same

theorem eq_iff_canonical_eq_of_teamImage :
    Obtained ((teamImage.setDigest "@v1").setDigest "sha256:A/B") ∧
      Obtained (teamImage.setDigest "a/b") ∧
      ((teamImage.setDigest "@v1").setDigest "sha256:A/B" = teamImage.setDigest "a/b" ↔
        ((teamImage.setDigest "@v1").setDigest "sha256:A/B").canonical =
          (teamImage.setDigest "a/b").canonical) := by
  have twice : Obtained ((teamImage.setDigest "@v1").setDigest "sha256:A/B") :=
    .pinned (.pinned (.parsed parse_teamImage) _) _
  have once : Obtained (teamImage.setDigest "a/b") := .pinned (.parsed parse_teamImage) _
  exact ⟨twice, once, eq_iff_canonical_eq twice once⟩

end Texts

section Digits

variable {r : Reference} {text digits : String}

/-- A digit of either case. -/
def IsHexDigit (c : Char) : Prop :=
  c ∈ Hex.digits ∨ c ∈ ['A', 'B', 'C', 'D', 'E', 'F']

theorem IsHexDigit.lower {c : Char} (h : IsHexDigit c) :
    c.toNat < 0x80 ∧ c ≠ 's' ∧ c.toLower ∈ Hex.digits := by
  have small : ∀ c ∈ Hex.digits, c.toNat < 0x80 ∧ c ≠ 's' ∧ c.toLower ∈ Hex.digits :=
    List.forall_iff_forall_mem.mp (by decide)
  have capital : ∀ c ∈ ['A', 'B', 'C', 'D', 'E', 'F'],
      c.toNat < 0x80 ∧ c ≠ 's' ∧ c.toLower ∈ Hex.digits :=
    List.forall_iff_forall_mem.mp (by decide)
  exact h.elim (small c) (capital c)

theorem WellNamed.utf8ByteSize_repositoryPath (h : r.WellNamed) :
    r.repositoryPath.utf8ByteSize = r.repositoryPath.length := by
  have bytes := h.named.utf8ByteSize_fullName
  rwa [← repositoryPath_toList, String.ofList_toList, String.length_toList] at bytes

/-- Digits of either case and with or without the name of their algorithm pin a reference to the
same digest. What is read back from the canonical text differs from the reference that has been
pinned in its digest only. -/
theorem parse_pinned_digits (parsed : parse text = .ok r)
    (short : r.repositoryPath.utf8ByteSize ≤ 255) (count : digits.length = 64)
    (hex : ∀ c ∈ digits.toList, IsHexDigit c) :
    ∀ digest ∈ [digits, "sha256:" ++ digits],
      parse (r.setDigest digest).canonical =
        .ok { r with digest := some (String.ofList (digits.toList.map Char.toLower)) } := by
  have named := (wellFormed_of_parse parsed).toWellNamed
  have ascii : ∀ c ∈ digits.toList, c.toNat < 0x80 := fun c member => (hex c member).lower.1
  have unmarked : 's' ∉ digits.toList := fun member => (hex 's' member).lower.2.1 rfl
  have bare := r.setDigest_unmarked ascii unmarked
  have marked := r.setDigest_marked ascii
  rw [String.ofList_toList] at bare marked
  have valid : isDigest (digits.toList.map Char.toLower) = true := by
    rw [isDigest_iff_mem_digits, List.length_map, String.length_toList, List.forall_mem_map]
    exact ⟨count, fun c member => (hex c member).lower.2.2⟩
  have pinned : ({ r with digest := some (String.ofList (digits.toList.map Char.toLower)) } :
      Reference).WellNamed := bare ▸ named.setDigest digits
  intro digest given
  have same : r.setDigest digest =
      { r with digest := some (String.ofList (digits.toList.map Char.toLower)) } := by
    rw [List.mem_pair] at given
    obtain rfl | rfl := given
    · exact bare
    · exact marked
  rw [same, pinned.parse_canonical_eq_ok (by simp)]
  refine ⟨by simpa using valid, ?_⟩
  rw [named.utf8ByteSize_repositoryPath] at short
  exact short

/-- Digits of both cases. -/
def mixedDigits : List Char :=
  List.replicate 32 'A' ++ List.replicate 32 'f'

theorem isHexDigit_mixedDigits : ∀ c ∈ (String.ofList mixedDigits).toList, IsHexDigit c := by
  rw [String.toList_ofList, mixedDigits, List.forall_mem_append]
  constructor
  · intro c capital
    rw [List.eq_of_mem_replicate capital]
    exact .inr (by decide)
  · intro c small
    rw [List.eq_of_mem_replicate small]
    exact .inl (by decide)

theorem parse_pinned_digits_of_teamImage :
    parse "team/image" = .ok teamImage ∧ teamImage.repositoryPath.utf8ByteSize ≤ 255 ∧
      (String.ofList mixedDigits).length = 64 ∧
      (∀ c ∈ (String.ofList mixedDigits).toList, IsHexDigit c) ∧
      ∀ digest ∈ [String.ofList mixedDigits, "sha256:" ++ String.ofList mixedDigits],
        parse (teamImage.setDigest digest).canonical =
          .ok { teamImage with
            digest := some (String.ofList
              ((String.ofList mixedDigits).toList.map Char.toLower)) } := by
  have short : teamImage.repositoryPath.utf8ByteSize ≤ 255 := by decide +kernel
  have count : (String.ofList mixedDigits).length = 64 := by
    rw [String.length_ofList]
    rfl
  exact ⟨parse_teamImage, short, count, isHexDigit_mixedDigits,
    parse_pinned_digits parse_teamImage short count isHexDigit_mixedDigits⟩

end Digits

end SignedAdmission.Reference
