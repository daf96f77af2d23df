import Mathlib.Data.Option.Basic
import SignedAdmission.Proofs.Reference.Grammar

/-! Texts that spell references. A text is accepted exactly if it is the spelling of a valid name
with or without a tag and a digest, and then stands for the reference with the defaults filled
in. -/
namespace SignedAdmission.Reference

/-- The parts of a text that spells a reference, before the defaults are filled in. -/
structure Spelling where
  path : List (List Char)
  name : List Char
  tag : Option (List Char)
  digest : Option (List Char)

namespace Spelling

/-- Everything before tag and digest. -/
def fullName (s : Spelling) : List Char :=
  Text.join '/' (s.path ++ [s.name])

def tagText (s : Spelling) : List Char :=
  match s.tag with
  | some tag => ':' :: tag
  | none => []

def digestText (s : Spelling) : List Char :=
  match s.digest with
  | some digest => '@' :: (digestStart.toList ++ digest)
  | none => []

def text (s : Spelling) : List Char :=
  s.fullName ++ s.tagText ++ s.digestText

/-- The name and the tag follow the grammar. -/
structure Named (s : Spelling) : Prop where
  name : isName s.path s.name = true
  tag : ∀ tag ∈ s.tag, isTag tag = true

theorem named_iff {s : Spelling} :
    s.Named ↔ isName s.path s.name = true ∧ s.tag.all isTag = true := by
  rw [Option.all_eq_true]
  exact ⟨fun h => ⟨h.name, h.tag⟩, fun h => ⟨h.1, h.2⟩⟩

/-- The digest follows the grammar, and the name is not too long. -/
def fits (s : Spelling) : Bool :=
  s.digest.all isDigest && decide (s.fullName.length ≤ maxNameLength)

def reference (s : Spelling) : Reference where
  registry := (locate s.path).1
  repository := (locate s.path).2
  name := String.ofList s.name
  tag :=
    match s.tag, s.digest with
    | none, none => some defaultTag
    | tag, _ => tag.map String.ofList
  digest := s.digest.map String.ofList

variable {s : Spelling}

section Characters

theorem Named.component_name (h : s.Named) : isComponent s.name = true := by
  have := h.name
  simp only [isName, Bool.and_eq_true] at this
  exact this.1

theorem Named.component_or_domain (h : s.Named) :
    ∀ part ∈ s.path, isComponent part = true ∨ isDomain part = true := by
  have valid := h.name
  simp only [isName, Bool.and_eq_true] at valid
  cases path : s.path with
  | nil => simp
  | cons first rest =>
    simp only [path, Bool.and_eq_true, Bool.or_eq_true, List.all_eq_true] at valid
    rw [List.forall_mem_cons]
    exact ⟨valid.2.1, fun part member => .inl (valid.2.2 part member)⟩

theorem Named.isNameChar_path (h : s.Named) :
    ∀ part ∈ s.path ++ [s.name], ∀ c ∈ part, isNameChar c = true := by
  intro part member
  rw [List.mem_append, List.mem_singleton] at member
  obtain member | rfl := member
  · obtain component | domain := h.component_or_domain part member
    · exact isNameChar_of_isComponent component
    · exact isNameChar_of_isDomain domain
  · exact isNameChar_of_isComponent h.component_name

theorem Named.not_mem_tag {c : Char} (h : s.Named) (separator : c ∈ ['/', ':', '@']) :
    ∀ tag ∈ s.tag, c ∉ tag :=
  fun tag tagged => not_mem_of_isTag (h.tag tag tagged) separator

theorem Named.not_mem_tagText {c : Char} (h : s.Named) (separator : c ∈ ['/', '@']) :
    c ∉ s.tagText := by
  rw [tagText]
  split
  case h_1 tag tagged =>
    rw [List.mem_cons, not_or]
    refine ⟨?_, h.not_mem_tag ?_ tag tagged⟩
    · rintro rfl
      simp at separator
    · simp only [List.mem_cons, List.not_mem_nil, or_false] at separator ⊢
      tauto
  case h_2 => simp

/-- The digest comes after the first `@`. -/
theorem Named.at_not_mem (h : s.Named) : '@' ∉ s.fullName ++ s.tagText := by
  rw [List.mem_append, not_or]
  refine ⟨fun member => ?_, h.not_mem_tagText (by simp)⟩
  obtain absurd | ⟨part, parts, inside⟩ := Text.mem_join member
  · contradiction
  · exact absurd (h.isNameChar_path part parts '@' inside) (by decide)

end Characters

section Reading

theorem cut_text (h : s.Named) :
    Text.cut '@' s.text =
      (s.fullName ++ s.tagText, s.digest.map (digestStart.toList ++ ·)) := by
  rw [text, digestText]
  cases s.digest with
  | none => rw [List.append_nil, Text.cut_of_not_mem h.at_not_mem, Option.map_none]
  | some digest => rw [Text.cut_append h.at_not_mem, Option.map_some]

theorem cut_tagText (h : s.Named) : Text.cut ':' (s.name ++ s.tagText) = (s.name, s.tag) := by
  have free := colon_not_mem_of_isComponent h.component_name
  rw [tagText]
  cases s.tag with
  | none => rw [List.append_nil, Text.cut_of_not_mem free]
  | some tag => rw [Text.cut_append free]

theorem nameParts_text (h : s.Named) :
    nameParts (s.fullName ++ s.tagText) = (s.path, s.name, s.tag) := by
  have free : ∀ part ∈ s.path ++ [s.name ++ s.tagText], '/' ∉ part := by
    intro part member slash
    rw [List.mem_append, List.mem_singleton] at member
    have name_free {part : List Char} (member : part ∈ s.path ++ [s.name]) : '/' ∉ part :=
      fun slash => absurd (h.isNameChar_path part member '/' slash) (by decide)
    obtain member | rfl := member
    · exact name_free (List.mem_append_left _ member) slash
    · rw [List.mem_append] at slash
      obtain slash | slash := slash
      · exact name_free (List.mem_append_right _ (List.mem_singleton_self _)) slash
      · exact h.not_mem_tagText (by simp) slash
  rw [nameParts, fullName, Text.join_concat_append, Text.split_join (by simp) free]
  simp [cut_tagText h]

theorem digestPart?_digestStart (digest : List Char) :
    digestPart? (digestStart.toList ++ digest) =
      if isDigest digest = true then some digest else none := by
  have dropped : Text.dropStart? digestStart.toList (digestStart.toList ++ digest) =
      some digest := Text.dropStart?_eq_some.mpr rfl
  rw [digestPart?, dropped]
  simp only [Option.bind_eq_bind, Option.bind_some]
  split <;> simp [*]

/-- A spelled text is read part by part. -/
theorem ofText?_text (h : s.Named) :
    ofText? (String.ofList s.text) = if s.fits = true then some s.reference else none := by
  have tagged := (named_iff.mp h).2
  have joined : Text.join '/' (s.path ++ [s.name]) = s.fullName := rfl
  rw [ofText?, String.toList_ofList, cut_text h]
  cases digest : s.digest with
  | none =>
    simp only [Option.map_none, Option.bind_eq_bind, Option.bind_some, nameParts_text h, h.name,
      tagged, joined, fits, reference, digest]
    by_cases short : s.fullName.length ≤ maxNameLength
    · cases s.tag <;> simp [short]
    · simp [short]
  | some digits =>
    simp only [Option.map_some, digestPart?_digestStart]
    by_cases valid : isDigest digits = true
    · simp only [valid, if_true, Option.map_some, Option.bind_eq_bind, Option.bind_some,
        nameParts_text h, h.name, tagged, joined, fits, reference, digest]
      by_cases short : s.fullName.length ≤ maxNameLength <;> simp [short, valid]
    · simp [valid, fits, digest]

end Reading

end Spelling

section Acceptance

variable {text : String} {r : Reference}

theorem exists_of_digestPart? {cs digest : List Char} (h : digestPart? cs = some digest) :
    cs = digestStart.toList ++ digest := by
  simp only [digestPart?, Option.bind_eq_bind, Option.bind_eq_some_iff, Text.dropStart?_eq_some] at h
  obtain ⟨digits, split, -, -, same⟩ := h
  rw [split, Option.some.inj same]

/-- What stands before the digest is a name and a tag, whether they are valid or not. -/
theorem Spelling.exists_nameParts (left : List Char) (digest : Option (List Char)) :
    ∃ s : Spelling, left = s.fullName ++ s.tagText ∧ s.digest = digest ∧
      nameParts left = (s.path, s.name, s.tag) := by
  have whole := Text.join_split '/' left
  rw [← List.dropLast_concat_getLast (Text.split_ne_nil '/' left)] at whole
  have last : (Text.split '/' left).getLast? =
      some ((Text.split '/' left).getLast (Text.split_ne_nil '/' left)) :=
    List.getLast?_eq_some_getLast _
  generalize (Text.split '/' left).getLast (Text.split_ne_nil '/' left) = final at whole last
  rw [nameParts, last, Option.getD_some]
  obtain ⟨-, uncut⟩ | ⟨name, tag, rfl, -, parts⟩ := Text.cut_cases ':' final
  · rw [uncut]
    refine ⟨⟨_, final, none, digest⟩, ?_, rfl, rfl⟩
    rw [fullName, tagText, List.append_nil, whole]
  · rw [parts]
    refine ⟨⟨_, name, some tag, digest⟩, ?_, rfl, rfl⟩
    rw [fullName, tagText, Text.join_concat_append, whole]

/-- Only spellings of valid parts are accepted. -/
theorem exists_spelling (h : ofText? text = some r) :
    ∃ s : Spelling, s.Named ∧ s.fits = true ∧ text.toList = s.text ∧ r = s.reference := by
  have spelled : ∃ s : Spelling, s.Named ∧ text.toList = s.text := by
    rw [ofText?] at h
    obtain ⟨-, whole⟩ | ⟨left, digits, split, -, parts⟩ := Text.cut_cases '@' text.toList
    · obtain ⟨s, left_eq, digest, named⟩ := Spelling.exists_nameParts text.toList none
      simp only [whole, named, Option.bind_eq_bind, Option.bind_eq_some_iff,
        Option.guard_eq_some'] at h
      obtain ⟨-, -, -, name, -, tag, -⟩ := h
      refine ⟨s, Spelling.named_iff.mpr ⟨name, tag⟩, ?_⟩
      rw [Spelling.text, Spelling.digestText, digest, List.append_nil, ← left_eq]
    · simp only [parts, Option.bind_eq_bind, Option.bind_eq_some_iff, Option.map_eq_some_iff] at h
      obtain ⟨-, ⟨digest, read, rfl⟩, h⟩ := h
      obtain ⟨s, left_eq, digest_eq, named⟩ := Spelling.exists_nameParts left (some digest)
      simp only [named, Option.guard_eq_some'] at h
      obtain ⟨-, name, -, tag, -⟩ := h
      refine ⟨s, Spelling.named_iff.mpr ⟨name, tag⟩, ?_⟩
      rw [split, exists_of_digestPart? read, Spelling.text, Spelling.digestText, digest_eq,
        left_eq]
  obtain ⟨s, named, same⟩ := spelled
  have read := Spelling.ofText?_text named
  rw [← same, String.ofList_toList, h] at read
  split at read
  case isTrue fits => exact ⟨s, named, fits, same, Option.some.inj read⟩
  case isFalse => contradiction

end Acceptance

end SignedAdmission.Reference
