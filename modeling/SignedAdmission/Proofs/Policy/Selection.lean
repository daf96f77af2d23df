import Mathlib.Data.List.Lex
import SignedAdmission.Policy.Selection
import SignedAdmission.Proofs.Checks

/-! The rule that is selected for an image. Specificities compare like lists of numbers, the
selected rule has the greatest one of all rules that match, and no earlier rule has the same. -/
namespace SignedAdmission

open Checks

namespace Specificity

/-- The numbers that decide, in the order they do. -/
def key (s : Specificity) : List Nat :=
  s.components :: s.shared ++ [s.firstLength]

/-- There is one shared length for each component. -/
def Even (s : Specificity) : Prop :=
  s.shared.length = s.components

theorem length_sharedLengths (parts others : List (List Char)) :
    (sharedLengths parts others).length = parts.length := by
  induction parts generalizing others with
  | nil => rfl
  | cons part parts ih => cases others <;> simp [sharedLengths, ih]

theorem even_of (pattern image : List Char) : (of pattern image).Even :=
  length_sharedLengths _ _

/-- Whether a comparison is won, where a tie is left to another one. -/
def wins (order : Ordering) (tie : Bool) : Bool :=
  match order with
  | .gt => true
  | .lt => false
  | .eq => tie

theorem wins_compare_then {a b : Nat} {order : Ordering} {tie : Bool} :
    wins ((compare a b).then order) tie = true ↔ b < a ∨ b = a ∧ wins order tie = true := by
  obtain less | same | greater := Nat.lt_trichotomy a b
  · rw [Nat.compare_eq_lt.mpr less]
    simp only [wins, Ordering.then, Bool.false_eq_true, false_iff, not_or, not_and]
    omega
  · rw [Nat.compare_eq_eq.mpr same]
    simp [Ordering.then, same]
  · rw [Nat.compare_eq_gt.mpr greater]
    simp [wins, Ordering.then, greater]

/-- Lists of one length compare like lists of numbers, with one more number each to break ties. -/
theorem wins_compareLengths {as bs : List Nat} {a b : Nat} (even : as.length = bs.length) :
    wins (compareLengths as bs) (b < a) = true ↔ bs ++ [b] < as ++ [a] := by
  induction as generalizing bs with
  | nil =>
    obtain rfl := List.eq_nil_of_length_eq_zero even.symm
    simp [compareLengths, wins, List.cons_lt_cons_iff]
  | cons x as ih =>
    cases bs with
    | nil => simp at even
    | cons y bs =>
      rw [compareLengths, wins_compare_then, ih (by simpa using even), List.cons_append,
        List.cons_append, List.cons_lt_cons_iff]

theorem exceeds_iff {a b : Specificity} (evenA : a.Even) (evenB : b.Even) :
    a.exceeds b = true ↔ b.key < a.key := by
  have exceeds_eq : a.exceeds b =
      wins ((compare a.components b.components).then (compareLengths a.shared b.shared))
        (b.firstLength < a.firstLength) := rfl
  rw [exceeds_eq, wins_compare_then, key, key, List.cons_append, List.cons_append,
    List.cons_lt_cons_iff]
  refine or_congr_right (and_congr_right fun same => wins_compareLengths ?_)
  rw [evenA, evenB, same]

end Specificity

namespace Policy

/-- What the choice among rules that match an image goes by. -/
def rank (image : List Char) (rule : CompiledRule) : List Nat :=
  (Specificity.of rule.rule.glob image).key

/-- A rule is the first of the greatest rank: everything before it ranks lower, and nothing after it
ranks higher. -/
def FirstBest (image : List Char) (rules : List CompiledRule) (best : CompiledRule) : Prop :=
  ∃ before after, rules = before ++ best :: after ∧
    (∀ rule ∈ before, rank image rule < rank image best) ∧
    ∀ rule ∈ after, rank image rule ≤ rank image best

section FirstBest

variable {image : List Char} {rules : List CompiledRule} {best : CompiledRule}

theorem FirstBest.singleton (image : List Char) (rule : CompiledRule) :
    FirstBest image [rule] rule :=
  ⟨[], [], rfl, by simp, by simp⟩

theorem FirstBest.mem (h : FirstBest image rules best) : best ∈ rules := by
  obtain ⟨before, after, rfl, -⟩ := h
  simp

theorem FirstBest.rank_le (h : FirstBest image rules best) :
    ∀ rule ∈ rules, rank image rule ≤ rank image best := by
  obtain ⟨before, after, rfl, lower, upper⟩ := h
  intro rule member
  rw [List.mem_append, List.mem_cons] at member
  obtain earlier | rfl | later := member
  · exact (lower rule earlier).le
  · exact le_refl _
  · exact upper rule later

/-- Another rule takes over only if it ranks higher. -/
theorem FirstBest.better (h : FirstBest image rules best) (next : CompiledRule) :
    ∃ winner, Policy.better image (some best) next = some winner ∧
      FirstBest image (rules ++ [next]) winner := by
  have exceeds : (Specificity.of next.rule.glob image).exceeds
      (Specificity.of best.rule.glob image) = true ↔ rank image best < rank image next :=
    Specificity.exceeds_iff (Specificity.even_of _ _) (Specificity.even_of _ _)
  rw [Policy.better]
  split
  case isTrue higher =>
    rw [exceeds] at higher
    refine ⟨next, rfl, rules, [], rfl, fun rule member => ?_, by simp⟩
    exact (h.rank_le rule member).trans_lt higher
  case isFalse lower =>
    rw [exceeds, not_lt] at lower
    obtain ⟨before, after, rfl, earlier, later⟩ := h
    refine ⟨best, rfl, before, after ++ [next], by simp, earlier, ?_⟩
    rw [List.forall_mem_append]
    exact ⟨later, by simpa using lower⟩

theorem FirstBest.foldl (h : FirstBest image rules best) (others : List CompiledRule) :
    ∃ winner, others.foldl (Policy.better image) (some best) = some winner ∧
      FirstBest image (rules ++ others) winner := by
  induction others generalizing rules best with
  | nil => exact ⟨best, rfl, by simpa using h⟩
  | cons next others ih =>
    obtain ⟨winner, chosen, first⟩ := h.better next
    rw [List.foldl_cons, chosen]
    simpa using ih first

end FirstBest

section Selection

variable {policy : Policy} {image : List Char}

/-- The rules whose pattern matches an image, in their order. -/
def covering (policy : Policy) (image : List Char) : List CompiledRule :=
  policy.rules.filter fun rule => Glob.covers rule.pieces image

theorem select?_firstBest (some_rule : policy.covering image ≠ []) :
    ∃ best, policy.select? image = some best ∧ FirstBest image (policy.covering image) best := by
  obtain ⟨first, others, rules⟩ := List.exists_cons_of_ne_nil some_rule
  obtain ⟨best, chosen, firstBest⟩ := (FirstBest.singleton image first).foldl others
  have selected : policy.select? image = (policy.covering image).foldl (better image) none := rfl
  refine ⟨best, ?_, by rwa [rules]⟩
  rw [selected, rules, List.foldl_cons]
  exact chosen

end Selection

end Policy

end SignedAdmission
