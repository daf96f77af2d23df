import Mathlib.Data.List.DropRight
import SignedAdmission.Text.Space

/-! Trimming. Nothing more goes when it is repeated, and text that has no white space at its ends
stays as it is. -/
namespace SignedAdmission.Text

variable {cs start : List Char}

theorem trim_eq (cs : List Char) : trim cs = (trimStart cs).rdropWhile isSpace := rfl

theorem trimStart_of_solid (solid : ∀ c ∈ cs.head?, isSpace c = false) : trimStart cs = cs := by
  cases cs with
  | nil => rfl
  | cons c cs => exact List.dropWhile_cons_of_neg (by simp [solid c rfl])

/-- A part from the beginning of a text begins as it does. -/
theorem trimStart_of_prefix (kept : trimStart cs = cs) (part : start <+: cs) :
    trimStart start = start := by
  rw [trimStart, List.dropWhile_eq_self_iff] at kept ⊢
  intro some_char
  rw [part.getElem some_char]
  exact kept (some_char.trans_le part.length_le)

theorem trimStart_trim (cs : List Char) : trimStart (trim cs) = trim cs := by
  refine trimStart_of_prefix (List.dropWhile_idempotent isSpace cs) ?_
  rw [trim_eq]
  exact List.rdropWhile_prefix _ _

theorem trim_trim (cs : List Char) : trim (trim cs) = trim cs := by
  rw [trim_eq, trimStart_trim, trim_eq, List.rdropWhile_idempotent]

theorem trim_of_solid (first : ∀ c ∈ cs.head?, isSpace c = false)
    (last : ∀ c ∈ cs.getLast?, isSpace c = false) : trim cs = cs := by
  rw [trim_eq, trimStart_of_solid first, List.rdropWhile_eq_self_iff]
  intro some_char
  rw [last _ (List.getLast?_eq_some_getLast some_char)]
  exact Bool.false_ne_true

/-- A start without white space is not trimmed. -/
theorem prefix_trim (solid : ∀ c ∈ start, isSpace c = false) (starts : start <+: trimStart cs) :
    start <+: trim cs := by
  obtain ⟨rest, split⟩ := starts
  have kept : start.reverse.dropWhile isSpace = start.reverse := by
    apply trimStart_of_solid
    intro c first
    exact solid c (List.mem_reverse.mp (List.mem_of_head? first))
  rw [trim_eq, ← split, List.rdropWhile, List.reverse_append, List.dropWhile_append, kept]
  split
  · exact ⟨[], by rw [List.append_nil, List.reverse_reverse]⟩
  · rw [List.reverse_append, List.reverse_reverse]
    exact List.prefix_append ..

end SignedAdmission.Text
