import Mathlib.Data.List.Basic
import SignedAdmission.Text.Split

/-! Pieces of a text between separators. Joining what was split gives the text back, and splitting
what was joined gives the pieces back, as long as none of them holds the separator. -/
namespace SignedAdmission.Text

variable {sep : Char} {cs before after piece : List Char} {pieces others : List (List Char)}

section Cut

theorem cut_of_not_mem (free : sep ∉ cs) : cut sep cs = (cs, none) := by
  induction cs with
  | nil => rfl
  | cons c cs ih =>
    rw [List.mem_cons, not_or] at free
    rw [cut, if_neg (Ne.symm free.1), ih free.2]

theorem cut_append (free : sep ∉ before) :
    cut sep (before ++ sep :: after) = (before, some after) := by
  induction before with
  | nil => rw [List.nil_append, cut, if_pos rfl]
  | cons c before ih =>
    rw [List.mem_cons, not_or] at free
    rw [List.cons_append, cut, if_neg (Ne.symm free.1), ih free.2]

/-- A text is cut at the first separator, if it has one. -/
theorem cut_cases (sep : Char) (cs : List Char) :
    sep ∉ cs ∧ cut sep cs = (cs, none) ∨
      ∃ before after, cs = before ++ sep :: after ∧ sep ∉ before ∧
        cut sep cs = (before, some after) := by
  by_cases member : sep ∈ cs
  · obtain ⟨before, after, rfl, free⟩ := List.eq_append_cons_of_mem member
    exact .inr ⟨before, after, rfl, free, cut_append free⟩
  · exact .inl ⟨member, cut_of_not_mem member⟩

end Cut

theorem dropStart?_eq_some {start rest : List Char} :
    dropStart? start cs = some rest ↔ cs = start ++ rest := by
  rw [dropStart?]
  constructor
  · intro dropped
    split at dropped
    case isTrue starts =>
      obtain ⟨rest, rfl⟩ := List.isPrefixOf_iff_prefix.mp starts
      simpa using dropped
    case isFalse => contradiction
  · rintro rfl
    simp

/-- What comes before another character is not told from what comes before that character. -/
theorem prefix_append_cons_iff {start rest : List Char} {c : Char} (free : c ∉ start) :
    start <+: cs ++ c :: rest ↔ start <+: cs := by
  constructor
  · intro starts
    rcases List.prefix_or_prefix_of_prefix starts (List.prefix_append cs (c :: rest)) with
      shorter | ⟨more, rfl⟩
    · exact shorter
    · rw [List.prefix_append_right_inj] at starts
      cases more with
      | nil => exact ⟨[], by rw [List.append_nil, List.append_nil]⟩
      | cons d more =>
        obtain ⟨rfl, -⟩ := List.cons_prefix_cons.mp starts
        simp at free
  · intro starts
    exact starts.trans (List.prefix_append ..)

/-- Two texts that are equal are so on both sides of a mark that comes first in each. -/
theorem append_cons_inj_of_first {α : Type} {mark : α} {before before' after after' : List α}
    (first : mark ∉ before) (first' : mark ∉ before')
    (same : before ++ mark :: after = before' ++ mark :: after') :
    before = before' ∧ after = after' := by
  obtain ⟨more, rfl, rest⟩ | ⟨more, rfl, rest⟩ := List.append_eq_append_iff.mp same
  · cases more with
    | nil => exact ⟨by simp, by simpa using rest⟩
    | cons c more =>
      obtain ⟨rfl, -⟩ := List.cons.inj rest
      simp at first'
  · cases more with
    | nil => exact ⟨by simp, by simpa using rest.symm⟩
    | cons c more =>
      obtain ⟨rfl, -⟩ := List.cons.inj rest
      simp at first

section Join

@[simp]
theorem join_nil : join sep [] = [] := List.intercalate_nil

@[simp]
theorem join_singleton : join sep [piece] = piece := List.intercalate_singleton

theorem join_cons (more : pieces ≠ []) :
    join sep (piece :: pieces) = piece ++ sep :: join sep pieces := by
  rw [join, List.intercalate_cons_of_ne_nil more, List.append_assoc]
  rfl

theorem join_append (some_piece : pieces ≠ []) (more : others ≠ []) :
    join sep (pieces ++ others) = join sep pieces ++ sep :: join sep others := by
  induction pieces with
  | nil => contradiction
  | cons piece pieces ih =>
    cases pieces with
    | nil => rw [List.singleton_append, join_cons more, join_singleton]
    | cons next pieces =>
      calc join sep (piece :: (next :: pieces ++ others))
          = piece ++ sep :: join sep (next :: pieces ++ others) := join_cons (by simp)
        _ = piece ++ sep :: (join sep (next :: pieces) ++ sep :: join sep others) := by
          rw [ih (by simp)]
        _ = join sep (piece :: next :: pieces) ++ sep :: join sep others := by
          rw [join_cons (List.cons_ne_nil next pieces), List.append_assoc, List.cons_append]

/-- What follows the last piece may as well belong to it. -/
theorem join_concat_append (last rest : List Char) :
    join sep (pieces ++ [last]) ++ rest = join sep (pieces ++ [last ++ rest]) := by
  cases pieces with
  | nil => simp
  | cons piece pieces =>
    rw [join_append (by simp) (by simp), join_append (by simp) (by simp), join_singleton,
      join_singleton, List.append_assoc, List.cons_append]

theorem mem_join {c : Char} (h : c ∈ join sep pieces) : c = sep ∨ ∃ piece ∈ pieces, c ∈ piece := by
  induction pieces with
  | nil => simp at h
  | cons piece pieces ih =>
    cases pieces with
    | nil => exact .inr ⟨piece, List.mem_singleton_self _, by simpa using h⟩
    | cons next pieces =>
      rw [join_cons (by simp), List.mem_append, List.mem_cons] at h
      obtain inside | separator | later := h
      · exact .inr ⟨piece, List.mem_cons_self, inside⟩
      · exact .inl separator
      · obtain separator | ⟨other, member, inside⟩ := ih later
        · exact .inl separator
        · exact .inr ⟨other, List.mem_cons_of_mem _ member, inside⟩

theorem mem_join_of_mem {c : Char} (h : piece ∈ pieces) (inside : c ∈ piece) :
    c ∈ join sep pieces := by
  induction pieces with
  | nil => contradiction
  | cons first pieces ih =>
    by_cases more : pieces = []
    · subst more
      obtain rfl := List.mem_singleton.mp h
      rwa [join_singleton]
    · rw [join_cons more, List.mem_append, List.mem_cons]
      rcases List.mem_cons.mp h with rfl | later
      · exact .inl inside
      · exact .inr (.inr (ih later))

/-- Pieces that are not empty leave a trace. -/
theorem join_eq_nil (filled : ∀ piece ∈ pieces, piece ≠ []) :
    join sep pieces = [] ↔ pieces = [] := by
  cases pieces with
  | nil => simp
  | cons piece pieces =>
    have head : piece ≠ [] := filled piece List.mem_cons_self
    cases pieces with
    | nil => simp [head]
    | cons next pieces => simp [join_cons]

end Join

section Split

theorem split_ne_nil (sep : Char) (cs : List Char) : split sep cs ≠ [] := by
  cases cs with
  | nil => simp [split]
  | cons c cs =>
    rw [split]
    split
    · simp
    · split <;> simp

theorem split_of_not_mem (free : sep ∉ cs) : split sep cs = [cs] := by
  induction cs with
  | nil => rfl
  | cons c cs ih =>
    rw [List.mem_cons, not_or] at free
    rw [split, if_neg (Ne.symm free.1), ih free.2]

theorem split_append_cons (sep : Char) (before after : List Char) :
    split sep (before ++ sep :: after) = split sep before ++ split sep after := by
  induction before with
  | nil => rw [List.nil_append, split, split, if_pos rfl, List.singleton_append]
  | cons c before ih =>
    rw [List.cons_append, split, split, ih]
    split
    case isTrue => rw [List.cons_append]
    case isFalse =>
      cases parts : split sep before with
      | nil => exact absurd parts (split_ne_nil sep before)
      | cons piece pieces => rfl

theorem split_append (free : sep ∉ before) :
    split sep (before ++ sep :: after) = before :: split sep after := by
  rw [split_append_cons, split_of_not_mem free, List.singleton_append]

/-- Pieces that hold the separator are split in their place. -/
theorem split_join_flatMap (some_piece : pieces ≠ []) :
    split sep (join sep pieces) = pieces.flatMap (split sep) := by
  induction pieces with
  | nil => contradiction
  | cons piece pieces ih =>
    cases pieces with
    | nil => rw [join_singleton, List.flatMap_singleton]
    | cons next pieces =>
      have more : next :: pieces ≠ [] := List.cons_ne_nil next pieces
      rw [join_cons more, split_append_cons, ih more]
      rfl

theorem split_join (some_piece : pieces ≠ []) (free : ∀ piece ∈ pieces, sep ∉ piece) :
    split sep (join sep pieces) = pieces := by
  calc split sep (join sep pieces)
      = pieces.flatMap (split sep) := split_join_flatMap some_piece
    _ = pieces.flatMap fun piece => [piece] :=
      List.flatMap_congr fun piece member => split_of_not_mem (free piece member)
    _ = pieces := List.flatMap_singleton' pieces

theorem join_split (sep : Char) (cs : List Char) : join sep (split sep cs) = cs := by
  induction cs with
  | nil => rfl
  | cons c cs ih =>
    rw [split]
    split
    case isTrue same => rw [join_cons (split_ne_nil sep cs), ih, same, List.nil_append]
    case isFalse =>
      cases parts : split sep cs with
      | nil => exact absurd parts (split_ne_nil sep cs)
      | cons piece pieces =>
        rw [parts] at ih
        cases pieces with
        | nil =>
          rw [join_singleton] at ih
          rw [join_singleton, ih]
        | cons next pieces =>
          rw [join_cons (by simp)] at ih
          rw [join_cons (by simp), List.cons_append, ih]

/-- What comes before without a separator belongs to the first piece. -/
theorem split_append_left (free : sep ∉ before) (rest : split sep cs = piece :: pieces) :
    split sep (before ++ cs) = (before ++ piece) :: pieces := by
  induction before with
  | nil => exact rest
  | cons c before ih =>
    rw [List.mem_cons, not_or] at free
    rw [List.cons_append, split, if_neg (Ne.symm free.1), ih free.2]
    rfl

theorem length_split (sep : Char) (cs : List Char) :
    (split sep cs).length = cs.count sep + 1 := by
  induction cs with
  | nil => rfl
  | cons c cs ih =>
    rw [split]
    split
    case isTrue same => rw [List.length_cons, ih, same, List.count_cons_self]
    case isFalse other =>
      rw [List.count_cons_of_ne other, ← ih]
      cases parts : split sep cs with
      | nil => exact absurd parts (split_ne_nil sep cs)
      | cons piece pieces => rfl

theorem split_eq_singleton_iff : split sep cs = [cs] ↔ sep ∉ cs := by
  constructor
  · intro whole
    have length := length_split sep cs
    rw [whole, List.length_singleton] at length
    exact List.count_eq_zero.mp (by omega)
  · exact split_of_not_mem

theorem not_mem_of_mem_split : ∀ piece ∈ split sep cs, sep ∉ piece := by
  induction cs with
  | nil => simp [split]
  | cons c cs ih =>
    rw [split]
    split
    case isTrue => exact List.forall_mem_cons.mpr ⟨List.not_mem_nil, ih⟩
    case isFalse other =>
      cases parts : split sep cs with
      | nil => exact absurd parts (split_ne_nil sep cs)
      | cons piece pieces =>
        rw [parts, List.forall_mem_cons] at ih
        refine List.forall_mem_cons.mpr ⟨?_, ih.2⟩
        rw [List.mem_cons, not_or]
        exact ⟨Ne.symm other, ih.1⟩

end Split

end SignedAdmission.Text
