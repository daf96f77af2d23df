import Mathlib.Data.String.Basic
import SignedAdmission.Proofs.Reference.Canonical
import SignedAdmission.Proofs.Reference.Productions

/-! The texts that are accepted as references. They are those that the grammar derives, each of them
from one name, tag and digest only, which the reference is made of. -/
namespace SignedAdmission.Reference

namespace Grammar

/-- What a text is put together from: a name, and maybe a tag and a digest. -/
structure Parts where
  name : List Char
  tag : Option (List Char)
  digest : Option (List Char)

namespace Parts

def text (parts : Parts) : List Char :=
  parts.name ++ parts.tag.elim [] (':' :: ·) ++ parts.digest.elim [] ("@sha256:".toList ++ ·)

/-- The grammar derives every part, and the name has at most 255 bytes. -/
structure Derived (parts : Parts) : Prop where
  name : Name parts.name
  short : (String.ofList parts.name).utf8ByteSize ≤ 255
  tag : ∀ tag ∈ parts.tag, Tag tag
  digest : ∀ digest ∈ parts.digest, Digest digest

end Parts

end Grammar

open Grammar

namespace Spelling

variable {s other : Spelling}

/-- The parts of a spelling, with the components of its name joined. -/
def parts (s : Spelling) : Parts where
  name := s.fullName
  tag := s.tag
  digest := s.digest

theorem text_parts (s : Spelling) : s.parts.text = s.text := by
  rw [Parts.text, text, tagText, digestText, parts]
  cases s.tag <;> cases s.digest <;> rfl

section Length

theorem toNat_le_of_isNameChar {c : Char} (h : isNameChar c = true) : c.toNat ≤ 127 := by
  simp only [isNameChar, Bool.or_eq_true, beq_iff_eq] at h
  rcases h with (((alnum | rfl) | rfl) | rfl) | rfl
  · have upper : 'Z'.toNat = 90 := rfl
    have lower : 'z'.toNat = 122 := rfl
    have digit : '9'.toNat = 57 := rfl
    simp only [Char.isAlphanum, isAlpha_eq, Bool.or_eq_true, isUpper_iff, isLower_iff,
      Char.isDigit_iff_toNat] at alnum
    omega
  all_goals decide

theorem utf8ByteSize_ofList {cs : List Char} (ascii : ∀ c ∈ cs, c.toNat ≤ 127) :
    (String.ofList cs).utf8ByteSize = cs.length := by
  rw [String.utf8ByteSize_ofList]
  induction cs with
  | nil => rfl
  | cons c cs ih =>
    rw [List.forall_mem_cons] at ascii
    have one : c.utf8Size = 1 := Char.utf8Size_eq_one_iff.mpr ascii.1
    rw [String.utf8Len_cons, ih ascii.2, one, List.length_cons]

/-- Names hold ASCII characters only. -/
theorem Named.utf8ByteSize_fullName (h : s.Named) :
    (String.ofList s.fullName).utf8ByteSize = s.fullName.length := by
  apply utf8ByteSize_ofList
  intro c member
  rcases Text.mem_join member with rfl | ⟨part, parts, inside⟩
  · decide
  · exact toNat_le_of_isNameChar (h.isNameChar_path part parts c inside)

end Length

/-- A text is spelled in one way. -/
theorem Named.eq_of_text (h : s.Named) (h' : other.Named) (same : s.text = other.text) :
    s = other := by
  have cut := congrArg (Text.cut '@') same
  rw [cut_text h, cut_text h', Prod.mk.injEq] at cut
  obtain ⟨left, digest⟩ := cut
  have split := congrArg nameParts left
  rw [nameParts_text h, nameParts_text h', Prod.mk.injEq, Prod.mk.injEq] at split
  obtain ⟨path, name, tag⟩ := split
  have digests : s.digest = other.digest :=
    Option.map_injective (List.append_right_injective digestStart.toList) digest
  cases s
  cases other
  simp_all

theorem fits_iff (h : s.Named) :
    s.fits = true ↔
      (∀ digest ∈ s.digest, Digest digest) ∧ (String.ofList s.fullName).utf8ByteSize ≤ 255 := by
  rw [h.utf8ByteSize_fullName, fits, Bool.and_eq_true, Option.all_eq_true, decide_eq_true_eq,
    maxNameLength]
  simp only [isDigest_iff, Option.mem_def]

theorem derived_parts (h : s.Named) (fits : s.fits = true) : s.parts.Derived := by
  obtain ⟨digest, short⟩ := (fits_iff h).mp fits
  refine ⟨name_iff.mpr ⟨s.path, s.name, h.name, rfl⟩, short, ?_, digest⟩
  intro tag tagged
  exact isTag_iff.mp (h.tag tag tagged)

theorem exists_of_derived {parts : Parts} (h : parts.Derived) :
    ∃ s : Spelling, s.Named ∧ s.fits = true ∧ s.parts = parts := by
  obtain ⟨path, name, valid, joined⟩ := name_iff.mp h.name
  let s : Spelling := ⟨path, name, parts.tag, parts.digest⟩
  have full : s.fullName = parts.name := joined.symm
  have named : s.Named := by
    refine ⟨valid, ?_⟩
    intro tag tagged
    exact isTag_iff.mpr (h.tag tag tagged)
  refine ⟨s, named, (fits_iff named).mpr ⟨h.digest, ?_⟩, ?_⟩
  · rw [full]
    exact h.short
  · rw [Spelling.parts, full]

/-- No segment of a name has a slash of its own. -/
theorem Named.split_fullName (h : s.Named) : Text.split '/' s.fullName = s.path ++ [s.name] := by
  have slashless : ∀ part ∈ s.path ++ [s.name], '/' ∉ part := by
    intro part member slash
    exact absurd (h.isNameChar_path part member '/' slash) (by decide)
  rw [fullName, Text.split_join (by simp) slashless]

end Spelling

/-- A text is accepted exactly if the grammar derives it. It is then derived from one name, tag and
digest only: the last segment of the name, the tag and the digest are those of the reference, where
`latest` is the tag if neither a tag nor a digest is given. -/
theorem parse_iff_derived (text : String) :
    ((∃ r, parse text = .ok r) ↔ ∃ parts : Parts, parts.Derived ∧ text.toList = parts.text) ∧
      (∀ parts other : Parts, parts.Derived → other.Derived → text.toList = parts.text →
        text.toList = other.text → parts = other) ∧
      ∀ r (parts : Parts), parse text = .ok r → parts.Derived → text.toList = parts.text →
        (Text.split '/' parts.name).getLast? = some r.name.toList ∧
          r.tag = (if parts.tag = none ∧ parts.digest = none then some "latest"
            else parts.tag.map String.ofList) ∧
          r.digest = parts.digest.map String.ofList := by
  have read {parts : Parts} (derived : parts.Derived) (spelled : text.toList = parts.text) :
      ∃ s : Spelling, s.Named ∧ s.parts = parts ∧ parse text = .ok s.reference := by
    obtain ⟨s, named, fits, rfl⟩ := Spelling.exists_of_derived derived
    refine ⟨s, named, rfl, ?_⟩
    rw [parse_eq_ok, ← String.ofList_toList (s := text), spelled, s.text_parts,
      Spelling.ofText?_text named, if_pos fits]
  refine ⟨⟨?_, ?_⟩, ?_, ?_⟩
  · rintro ⟨r, parsed⟩
    obtain ⟨s, named, fits, spelled, -⟩ := exists_spelling (parse_eq_ok.mp parsed)
    exact ⟨s.parts, Spelling.derived_parts named fits, spelled.trans s.text_parts.symm⟩
  · rintro ⟨parts, derived, spelled⟩
    obtain ⟨s, -, -, parsed⟩ := read derived spelled
    exact ⟨s.reference, parsed⟩
  · intro parts other derived derived' spelled spelled'
    obtain ⟨s, named, -, rfl⟩ := Spelling.exists_of_derived derived
    obtain ⟨t, named', -, rfl⟩ := Spelling.exists_of_derived derived'
    rw [s.text_parts] at spelled
    rw [t.text_parts] at spelled'
    rw [named.eq_of_text named' (spelled.symm.trans spelled')]
  · intro r parts parsed derived spelled
    obtain ⟨s, named, rfl, same⟩ := read derived spelled
    rw [same] at parsed
    obtain rfl := Except.ok.inj parsed
    refine ⟨?_, ?_, rfl⟩
    · rw [Spelling.parts, named.split_fullName, List.getLast?_concat, Spelling.reference,
        String.toList_ofList]
    · rw [Spelling.parts]
      cases tag : s.tag <;> cases digest : s.digest <;>
        simp [Spelling.reference, tag, digest, defaultTag]

end SignedAdmission.Reference
