import Mathlib.Data.List.Basic
import SignedAdmission.Proofs.Text.Split
import SignedAdmission.Reference.Parse

/-! The parts of a reference: the characters they are made of, and what tells a registry from a
path component. -/
namespace SignedAdmission.Reference

variable {cs : List Char} {c : Char}

/-- The characters of registries and path components. -/
def isNameChar (c : Char) : Bool :=
  c.isAlphanum || c == '.' || c == '_' || c == '-' || c == ':'

theorem isAlpha_eq (c : Char) : c.isAlpha = (c.isUpper || c.isLower) := rfl

theorem isUpper_iff : c.isUpper = true ↔ 'A'.toNat ≤ c.toNat ∧ c.toNat ≤ 'Z'.toNat := by
  have range : c.isUpper = decide ('A'.val ≤ c.val ∧ c.val ≤ 'Z'.val) := rfl
  rw [range, decide_eq_true_eq]
  exact Iff.rfl

theorem isLower_iff : c.isLower = true ↔ 'a'.toNat ≤ c.toNat ∧ c.toNat ≤ 'z'.toNat := by
  have range : c.isLower = (decide ('a'.val ≤ c.val) && decide (c.val ≤ 'z'.val)) := rfl
  rw [range, Bool.and_eq_true, decide_eq_true_eq, decide_eq_true_eq]
  exact Iff.rfl

theorem isNameChar_of_isLowerAlnum (h : isLowerAlnum c = true) : isNameChar c = true := by
  simp only [isLowerAlnum, Bool.or_eq_true] at h
  simp only [isNameChar, Char.isAlphanum, isAlpha_eq, Bool.or_eq_true]
  tauto

section Components

theorem Progress.next?_char {progress after : Progress} (h : progress.next? c = some after) :
    isLowerAlnum c = true ∨ c = '.' ∨ c = '_' ∨ c = '-' := by
  unfold Progress.next? at h
  split at h
  case isTrue alnum => exact .inl alnum
  case isFalse => split at h <;> simp at h ⊢

theorem chars_of_foldlM {progress after : Progress}
    (h : cs.foldlM Progress.next? progress = some after) :
    ∀ c ∈ cs, isLowerAlnum c = true ∨ c = '.' ∨ c = '_' ∨ c = '-' := by
  induction cs generalizing progress with
  | nil => simp
  | cons c cs ih =>
    obtain ⟨next, first, rest⟩ := Option.bind_eq_some_iff.mp h
    rw [List.forall_mem_cons]
    exact ⟨Progress.next?_char first, ih rest⟩

theorem isComponent_chars (h : isComponent cs = true) :
    ∀ c ∈ cs, isLowerAlnum c = true ∨ c = '.' ∨ c = '_' ∨ c = '-' :=
  chars_of_foldlM (by simpa [isComponent] using h)

theorem ne_nil_of_isComponent (h : isComponent cs = true) : cs ≠ [] := by
  rintro rfl
  contradiction

theorem isNameChar_of_isComponent (h : isComponent cs = true) : ∀ c ∈ cs, isNameChar c = true := by
  intro c member
  obtain alnum | rfl | rfl | rfl := isComponent_chars h c member
  · exact isNameChar_of_isLowerAlnum alnum
  all_goals rfl

/-- A component holds no port. -/
theorem colon_not_mem_of_isComponent (h : isComponent cs = true) : ':' ∉ cs := by
  intro member
  have := isComponent_chars h ':' member
  contradiction

/-- Runs of lowercase letters and digits may be set apart by hyphens alone. -/
theorem foldlM_hyphenated {progress : Progress} (some_char : cs ≠ [])
    (started : progress = .run ∨ progress = .hyphens)
    (chars : ∀ c ∈ cs, isLowerAlnum c = true ∨ c = '-')
    (last : ∀ c ∈ cs.getLast?, isLowerAlnum c = true) :
    cs.foldlM Progress.next? progress = some .run := by
  induction cs generalizing progress with
  | nil => contradiction
  | cons c cs ih =>
    rw [List.forall_mem_cons] at chars
    obtain ⟨first, chars⟩ := chars
    rw [List.foldlM_cons]
    obtain alnum | rfl := first
    · have next : progress.next? c = some .run := by simp [Progress.next?, alnum]
      rw [next]
      cases cs with
      | nil => rfl
      | cons d cs => exact ih (by simp) (.inl rfl) chars (by simpa using last)
    · have next : progress.next? '-' = some .hyphens := by
        obtain rfl | rfl := started <;> rfl
      rw [next]
      cases cs with
      | nil => exact absurd (last '-' rfl) (by decide)
      | cons d cs => exact ih (by simp) (.inr rfl) chars (by simpa using last)

end Components

section Domains

theorem isNameChar_of_isLabel (h : isLabel cs = true) : ∀ c ∈ cs, isNameChar c = true := by
  simp only [isLabel, Bool.and_eq_true, List.all_eq_true, Bool.or_eq_true, beq_iff_eq] at h
  intro c member
  obtain alnum | rfl := h.1.1 c member
  · simp [isNameChar, alnum]
  · rfl

theorem isNameChar_of_isPort (h : isPort cs = true) : ∀ c ∈ cs, isNameChar c = true := by
  simp only [isPort, Bool.and_eq_true, List.all_eq_true] at h
  intro c member
  simp [isNameChar, Char.isAlphanum, h.2 c member]

theorem isNameChar_of_isDomain (h : isDomain cs = true) : ∀ c ∈ cs, isNameChar c = true := by
  have labels {host : List Char} (h : (Text.split '.' host).all isLabel = true) :
      ∀ c ∈ host, isNameChar c = true := by
    intro c member
    rw [← Text.join_split '.' host] at member
    obtain rfl | ⟨label, labels, inside⟩ := Text.mem_join member
    · rfl
    · exact isNameChar_of_isLabel (List.all_eq_true.mp h label labels) c inside
  obtain ⟨-, whole⟩ | ⟨host, port, rfl, -, parts⟩ := Text.cut_cases ':' cs
  · rw [isDomain, whole] at h
    exact labels (by simpa using h)
  · rw [isDomain, parts] at h
    simp only [Option.all_some, Bool.and_eq_true] at h
    intro c member
    rw [List.mem_append, List.mem_cons] at member
    obtain inside | rfl | inside := member
    · exact labels h.1 c inside
    · rfl
    · exact isNameChar_of_isPort h.2 c inside

/-- What names no registry although it could be a domain is a path component. -/
theorem isComponent_of_isDomain (domain : isDomain cs = true) (h : isRegistryHost cs = false) :
    isComponent cs = true := by
  simp only [isRegistryHost, Bool.or_eq_false_iff, List.contains_eq_mem, decide_eq_false_iff_not,
    List.any_eq_false] at h
  obtain ⟨⟨⟨dotless, portless⟩, -⟩, lower⟩ := h
  have label : isLabel cs = true := by
    simpa [isDomain, Text.cut_of_not_mem portless, Text.split_of_not_mem dotless] using domain
  simp only [isLabel, Bool.and_eq_true, List.all_eq_true, Bool.or_eq_true, beq_iff_eq] at label
  obtain ⟨⟨chars, first⟩, last⟩ := label
  have small {c : Char} (member : c ∈ cs) (alnum : c.isAlphanum = true) :
      isLowerAlnum c = true := by
    have := lower c member
    simp only [Char.isAlphanum, isAlpha_eq, Bool.or_eq_true] at alnum
    simp only [isLowerAlnum, Bool.or_eq_true]
    tauto
  cases cs with
  | nil => simp at first
  | cons c cs =>
    have start : Progress.start.next? c = some .run := by
      simp [Progress.next?, small List.mem_cons_self (by simpa using first)]
    have parsed : (c :: cs).foldlM Progress.next? .start = some .run := by
      rw [List.foldlM_cons, start]
      cases cs with
      | nil => rfl
      | cons d cs =>
        refine foldlM_hyphenated (by simp) (.inl rfl) (fun e member => ?_) (fun e final => ?_)
        · have member := List.mem_cons_of_mem c member
          exact (chars e member).imp_left (small member)
        · have final : e ∈ (c :: d :: cs).getLast? := by simpa using final
          refine small (List.mem_of_getLast? final) ?_
          rw [Option.mem_def.mp final] at last
          simpa using last
    simp [isComponent, parsed]

end Domains

/-- A registry as parsing takes it off a path. -/
def IsRegistry (cs : List Char) : Prop :=
  (isComponent cs = true ∨ isDomain cs = true) ∧ isRegistryHost cs = true

theorem isRegistry_defaultRegistry : IsRegistry defaultRegistry.toList :=
  ⟨.inl (by decide), by decide⟩

section Tags

/-- A tag holds none of the characters that set the parts of a reference apart. -/
theorem not_mem_of_isTag (h : isTag cs = true) (separator : c ∈ ['/', ':', '@']) : c ∉ cs := by
  simp only [isTag, Bool.and_eq_true, List.all_eq_true, Bool.or_eq_true, beq_iff_eq] at h
  intro member
  have allowed := h.1.2 c member
  simp only [List.mem_cons, List.not_mem_nil, or_false] at separator
  obtain rfl | rfl | rfl := separator <;> revert allowed <;> decide

end Tags

end SignedAdmission.Reference
