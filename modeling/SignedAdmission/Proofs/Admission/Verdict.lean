import SignedAdmission.Admission.Controller
import SignedAdmission.Proofs.Checks

/-! What becomes of one image: it is let through, refused, or never decided about. -/
namespace SignedAdmission.Controller

open Checks

section Verdicts

variable (controller : Controller) (parents previous : List Reference) (image : Reference)

/-- An image is let through if an owner or the replaced version runs it, or if the validator that
the rule for it names approves of it, possibly with a digest. -/
inductive Cleared : Option String → Prop
  | owned (run : image ∈ parents) : Cleared none
  | unchanged (run : image ∈ previous) : Cleared none
  | verified {rule validator digest} (unowned : image ∉ parents) (changed : image ∉ previous)
    (selected : controller.policy.select image = .ok rule)
    (named : controller.validators.named (rule.rule.validator.getD "default") = .ok validator)
    (approved : (validator.verify image rule.rule.arguments).outcome = some (.ok digest)) :
    Cleared digest

/-- An image that nobody runs yet is refused if no rule is for it, if its rule names no validator,
or if the validator rejects it. -/
inductive Refused : TrustError → Prop
  | unmatched {e} (unowned : image ∉ parents) (changed : image ∉ previous)
    (unselected : controller.policy.select image = .error e) : Refused e
  | unvalidated {rule e} (unowned : image ∉ parents) (changed : image ∉ previous)
    (selected : controller.policy.select image = .ok rule)
    (unnamed : controller.validators.named (rule.rule.validator.getD "default") = .error e) :
    Refused e
  | rejected {rule validator e} (unowned : image ∉ parents) (changed : image ∉ previous)
    (selected : controller.policy.select image = .ok rule)
    (named : controller.validators.named (rule.rule.validator.getD "default") = .ok validator)
    (rejected : (validator.verify image rule.rule.arguments).outcome = some (.error e)) :
    Refused e

/-- The verification of an image that nobody runs yet never ends. -/
inductive Endless : Prop
  | intro {rule validator} (unowned : image ∉ parents) (changed : image ∉ previous)
    (selected : controller.policy.select image = .ok rule)
    (named : controller.validators.named (rule.rule.validator.getD "default") = .ok validator)
    (endless : (validator.verify image rule.rule.arguments).outcome = none) : Endless

end Verdicts

section Findings

variable {controller : Controller} {parents previous : List Reference} {image : Reference}

theorem finding_seen (seen : image ∈ parents ∨ image ∈ previous) :
    controller.finding parents previous image = .approved := by
  rw [finding, if_pos (by simpa using seen)]

theorem validatorFor_eq_ok {rule : Rule} {validator : Validator} :
    controller.validatorFor image = .ok (rule, validator) ↔
      ∃ found, controller.policy.select image = .ok found ∧
        controller.validators.named (found.rule.validator.getD "default") = .ok validator ∧
        found.rule = rule := by
  simp only [validatorFor, bind_eq_ok, pure_eq_ok, Prod.mk.injEq]
  refine exists_congr fun found => and_congr_right fun _ => ?_
  constructor
  · rintro ⟨validator, named, rfl, rfl⟩
    exact ⟨named, rfl⟩
  · rintro ⟨named, rfl⟩
    exact ⟨validator, named, rfl, rfl⟩

theorem validatorFor_eq_error {e : TrustError} :
    controller.validatorFor image = .error e ↔
      controller.policy.select image = .error e ∨
        ∃ found, controller.policy.select image = .ok found ∧
          controller.validators.named (found.rule.validator.getD "default") = .error e := by
  simp only [validatorFor, bind_eq_error, pure_ne_error, and_false, exists_false, or_false]
  rfl

/-- A verdict is what the finding about an image comes to. -/
theorem finding_outcome (controller : Controller) (parents previous : List Reference)
    (image : Reference) :
    match (controller.finding parents previous image).outcome with
    | some (.ok digest) => controller.Cleared parents previous image digest
    | some (.error e) => controller.Refused parents previous image e
    | none => controller.Endless parents previous image := by
  by_cases owned : image ∈ parents
  · rw [finding_seen (.inl owned)]
    exact .owned owned
  by_cases unchanged : image ∈ previous
  · rw [finding_seen (.inr unchanged)]
    exact .unchanged unchanged
  rw [finding, if_neg (by simp [owned, unchanged])]
  cases dispatch : controller.validatorFor image with
  | error e =>
    obtain unselected | ⟨found, selected, unnamed⟩ := validatorFor_eq_error.mp dispatch
    · exact .unmatched owned unchanged unselected
    · exact .unvalidated owned unchanged selected unnamed
  | ok decided =>
    obtain ⟨rule, validator⟩ := decided
    obtain ⟨found, selected, named, rfl⟩ := validatorFor_eq_ok.mp dispatch
    simp only [Finding.outcome]
    cases verdict : (validator.verify image found.rule.arguments).outcome with
    | none => exact ⟨owned, unchanged, selected, named, verdict⟩
    | some outcome =>
      cases outcome with
      | ok digest => exact .verified owned unchanged selected named verdict
      | error e => exact .rejected owned unchanged selected named verdict

/-- The finding about an image that nobody runs yet is the verdict of its validator. -/
theorem finding_verified {found : CompiledRule} {validator : Validator} (unowned : image ∉ parents)
    (changed : image ∉ previous) (selected : controller.policy.select image = .ok found)
    (named : controller.validators.named (found.rule.validator.getD "default") = .ok validator) :
    (controller.finding parents previous image).outcome =
      (validator.verify image found.rule.arguments).outcome := by
  have dispatch := validatorFor_eq_ok.mpr ⟨found, selected, named, rfl⟩
  rw [finding, if_neg (by simp [unowned, changed]), dispatch]
  rfl

theorem finding_undecided {e : TrustError} (unowned : image ∉ parents) (changed : image ∉ previous)
    (dispatch : controller.validatorFor image = .error e) :
    (controller.finding parents previous image).outcome = some (.error e) := by
  rw [finding, if_neg (by simp [unowned, changed]), dispatch]
  rfl

theorem outcome_eq_ok {digest : Option String} :
    (controller.finding parents previous image).outcome = some (.ok digest) ↔
      controller.Cleared parents previous image digest := by
  constructor
  · intro h
    simpa only [h] using controller.finding_outcome parents previous image
  · intro h
    cases h with
    | owned run => rw [finding_seen (.inl run), Finding.outcome]
    | unchanged run => rw [finding_seen (.inr run), Finding.outcome]
    | verified unowned changed selected named approved =>
      rw [finding_verified unowned changed selected named, approved]

theorem outcome_eq_error {e : TrustError} :
    (controller.finding parents previous image).outcome = some (.error e) ↔
      controller.Refused parents previous image e := by
  constructor
  · intro h
    simpa only [h] using controller.finding_outcome parents previous image
  · intro h
    cases h with
    | unmatched unowned changed unselected =>
      exact finding_undecided unowned changed (validatorFor_eq_error.mpr (.inl unselected))
    | unvalidated unowned changed selected unnamed =>
      exact finding_undecided unowned changed
        (validatorFor_eq_error.mpr (.inr ⟨_, selected, unnamed⟩))
    | rejected unowned changed selected named rejected =>
      rw [finding_verified unowned changed selected named, rejected]

theorem outcome_eq_none :
    (controller.finding parents previous image).outcome = none ↔
      controller.Endless parents previous image := by
  constructor
  · intro h
    simpa only [h] using controller.finding_outcome parents previous image
  · rintro ⟨unowned, changed, selected, named, endless⟩
    rw [finding_verified unowned changed selected named, endless]

theorem Cleared.not_endless {digest : Option String}
    (h : controller.Cleared parents previous image digest) :
    ¬ controller.Endless parents previous image := by
  rw [← outcome_eq_none, outcome_eq_ok.mpr h]
  simp

theorem Refused.not_endless {e : TrustError} (h : controller.Refused parents previous image e) :
    ¬ controller.Endless parents previous image := by
  rw [← outcome_eq_none, outcome_eq_error.mpr h]
  simp

end Findings

end SignedAdmission.Controller
