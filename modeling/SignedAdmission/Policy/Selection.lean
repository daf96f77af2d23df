import SignedAdmission.Policy.Glob
import SignedAdmission.Policy.Rule
import SignedAdmission.Reference.Basic

/-! Selection of the rule for an image: of the rules whose pattern matches, the most specific one,
and of equally specific ones the first. -/
namespace SignedAdmission

/-- A rule with its place in the list and its compiled pattern. -/
structure CompiledRule where
  index : Nat
  rule : Rule
  pieces : List Glob.Piece

structure Policy where
  rules : List CompiledRule

/-- How specific a pattern is for one image. -/
structure Specificity where
  components : Nat
  /-- How much each component has in common with the image's component in the same place. -/
  shared : List Nat
  firstLength : Nat
deriving DecidableEq, Repr

namespace Specificity

def commonLength : List Char → List Char → Nat
  | a :: as, b :: bs => if a = b then commonLength as bs + 1 else 0
  | _, _ => 0

/-- The lengths of the common starts; a component without counterpart shares nothing. -/
def sharedLengths : List (List Char) → List (List Char) → List Nat
  | [], _ => []
  | _ :: parts, [] => 0 :: sharedLengths parts []
  | part :: parts, other :: others => commonLength part other :: sharedLengths parts others

def of (pattern image : List Char) : Specificity :=
  let parts := Text.split '/' pattern
  { components := parts.length
    shared := sharedLengths parts (Text.split '/' image)
    firstLength := (parts.headD []).length }

/-- The order of two lists at the first place where they differ. -/
def compareLengths : List Nat → List Nat → Ordering
  | a :: as, b :: bs => (compare a b).then (compareLengths as bs)
  | _, _ => .eq

/-- More components first, then more in common from the left, then a longer first component. -/
def exceeds (a b : Specificity) : Bool :=
  match (compare a.components b.components).then (compareLengths a.shared b.shared) with
  | .gt => true
  | .lt => false
  | .eq => b.firstLength < a.firstLength

end Specificity

namespace Policy

def compileRule (index : Nat) (rule : Rule) : Except TrustError CompiledRule :=
  match Glob.pieces? rule.glob with
  | some pieces => .ok ⟨index, rule, pieces⟩
  | none => .error (.format (.pattern (String.ofList rule.glob)))

/-- Compiles rules in order; the first pattern that is malformed is reported. -/
def compile (rules : List Rule) : Except TrustError Policy := do
  return ⟨← rules.zipIdx.mapM fun (rule, index) => compileRule index rule⟩

/-- Keeps the better of the rule found so far and another one. -/
def better (image : List Char) (best : Option CompiledRule) (next : CompiledRule) :
    Option CompiledRule :=
  match best with
  | none => some next
  | some current =>
    if (Specificity.of next.rule.glob image).exceeds (Specificity.of current.rule.glob image)
    then some next else some current

def select? (policy : Policy) (image : List Char) : Option CompiledRule :=
  (policy.rules.filter fun rule => Glob.covers rule.pieces image).foldl (better image) none

/-- The rule that decides about an image. -/
def select (policy : Policy) (image : Reference) : Except TrustError CompiledRule :=
  match policy.select? image.canonical.toList with
  | some rule => .ok rule
  | none => .error (.noMatchingRule image.canonical)

end Policy

end SignedAdmission
