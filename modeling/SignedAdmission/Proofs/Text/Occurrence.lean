import Mathlib.Data.List.Infix
import SignedAdmission.Text.Split

/-! Occurrences of a text in another one. -/
namespace SignedAdmission.Text

variable {part cs before rest : List Char}

theorem contains_iff : contains part cs = true ↔ part <:+: cs := by
  induction cs with
  | nil => rw [contains, List.isEmpty_iff, List.infix_nil]
  | cons c cs ih =>
    rw [contains, Bool.or_eq_true, List.isPrefixOf_iff_prefix, ih, List.infix_cons_iff]

/-- An occurrence before which there is no other one. -/
structure First (part cs before rest : List Char) : Prop where
  text : cs = before ++ (part ++ rest)
  first : ∀ earlier after, cs = earlier ++ (part ++ after) → before.length ≤ earlier.length

theorem exists_first (occurs : part <:+: cs) : ∃ before rest, First part cs before rest := by
  induction cs with
  | nil =>
    obtain rfl := List.infix_nil.mp occurs
    exact ⟨[], [], rfl, fun _ _ _ => Nat.zero_le _⟩
  | cons c cs ih =>
    by_cases here : part <+: c :: cs
    · obtain ⟨rest, same⟩ := here
      exact ⟨[], rest, same.symm, fun _ _ _ => Nat.zero_le _⟩
    · obtain ⟨before, rest, text, first⟩ := ih ((List.infix_cons_iff.mp occurs).resolve_left here)
      refine ⟨c :: before, rest, by rw [text, List.cons_append], ?_⟩
      intro earlier after same
      cases earlier with
      | nil => exact absurd ⟨after, same.symm⟩ here
      | cons d earlier => exact Nat.succ_le_succ (first earlier after (List.cons.inj same).2)

/-- Behind a character that nothing begins with, the rest decides. -/
theorem First.tail {c : Char} (h : First part (c :: cs) (c :: before) rest) :
    First part cs before rest where
  text := (List.cons.inj h.text).2
  first := by
    intro earlier after same
    have later := h.first (c :: earlier) after (by rw [same, List.cons_append])
    exact Nat.le_of_succ_le_succ later

section Counting

theorem count_skip (skip : ℕ) :
    occurrences.count part cs skip = occurrences.count part (cs.drop skip) 0 := by
  induction cs generalizing skip with
  | nil => cases skip <;> rfl
  | cons c cs ih =>
    cases skip with
    | zero => rfl
    | succ skip => rw [occurrences.count, ih, List.drop_succ_cons]

theorem occurrences_cons {c : Char} (absent : ¬ part <+: c :: cs) :
    occurrences part (c :: cs) = occurrences part cs := by
  rw [occurrences, occurrences.count, if_neg (by simp [absent]), occurrences]

theorem occurrences_of_absent (absent : ¬ part <:+: cs) : occurrences part cs = 0 := by
  induction cs with
  | nil => rfl
  | cons c cs ih =>
    rw [List.infix_cons_iff, not_or] at absent
    rw [occurrences_cons absent.1, ih absent.2]

variable (some_char : part ≠ [])

include some_char

theorem occurrences_append : occurrences part (part ++ rest) = occurrences part rest + 1 := by
  obtain ⟨c, more, rfl⟩ := List.exists_cons_of_ne_nil some_char
  rw [occurrences, List.cons_append, occurrences.count, if_pos (by simp), count_skip]
  simp [occurrences]

/-- The count goes on behind the first occurrence. -/
theorem First.occurrences_eq (h : First part cs before rest) :
    occurrences part cs = occurrences part rest + 1 := by
  induction before generalizing cs with
  | nil => rw [h.text, List.nil_append, occurrences_append some_char]
  | cons c before ih =>
    obtain ⟨cs, rfl⟩ : ∃ more, cs = c :: more := ⟨_, h.text⟩
    have absent : ¬ part <+: c :: cs := by
      rintro ⟨after, same⟩
      exact Nat.not_succ_le_zero _ (h.first [] after same.symm)
    rw [occurrences_cons absent, ih h.tail]

theorem occurrences_pos_iff : 0 < occurrences part cs ↔ part <:+: cs := by
  constructor
  · intro counted
    by_contra absent
    rw [occurrences_of_absent absent] at counted
    exact Nat.lt_irrefl 0 counted
  · intro occurs
    obtain ⟨before, rest, first⟩ := exists_first occurs
    rw [first.occurrences_eq some_char]
    exact Nat.succ_pos _

/-- A text is counted twice where it occurs again behind an occurrence. -/
theorem two_occurrences_iff :
    1 < occurrences part cs ↔
      ∃ before between after, cs = before ++ (part ++ (between ++ (part ++ after))) := by
  constructor
  · intro counted
    obtain ⟨before, rest, first⟩ := exists_first
      ((occurrences_pos_iff some_char).mp (Nat.zero_lt_of_lt counted))
    rw [first.occurrences_eq some_char, Nat.lt_add_left_iff_pos, occurrences_pos_iff some_char]
      at counted
    obtain ⟨between, after, rfl⟩ := counted
    exact ⟨before, between, after, by rw [first.text, List.append_assoc between]⟩
  · rintro ⟨before, between, after, same⟩
    have occurs : part <:+: cs :=
      ⟨before, between ++ (part ++ after), by rw [same, List.append_assoc]⟩
    obtain ⟨start, rest, first⟩ := exists_first occurs
    rw [first.occurrences_eq some_char, Nat.lt_add_left_iff_pos, occurrences_pos_iff some_char]
    -- The first occurrence ends no later than the one that another one follows.
    have earlier := first.first before _ same
    have startPrefix : start ++ part <+: cs := ⟨rest, by rw [first.text, List.append_assoc]⟩
    have beforePrefix : before ++ part <+: cs :=
      ⟨between ++ (part ++ after), by rw [same, List.append_assoc]⟩
    obtain ⟨more, extended⟩ := List.prefix_of_prefix_length_le startPrefix beforePrefix
      (by rw [List.length_append, List.length_append]; omega)
    have rest_eq : rest = more ++ (between ++ (part ++ after)) := by
      have texts := first.text.symm.trans same
      rw [← List.append_assoc before, ← extended, List.append_assoc, List.append_assoc] at texts
      exact List.append_cancel_left (List.append_cancel_left texts)
    exact ⟨more ++ between, after, by rw [rest_eq, List.append_assoc, List.append_assoc]⟩

end Counting

end SignedAdmission.Text
