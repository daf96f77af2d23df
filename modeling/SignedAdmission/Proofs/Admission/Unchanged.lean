import SignedAdmission.Proofs.Admission.Patching

/-! Approval of the images that an update leaves as they were. It takes patches away and adds none,
but it has to list the images of the replaced version first, which may fail. -/
namespace SignedAdmission

open Checks

namespace ReviewRequest

/-- The images of the version that an update replaces can be listed, if there is such a version. -/
def ReplacesListed (request : ReviewRequest) : Prop :=
  request.operation = .update → ∀ old, request.oldObject = some old →
    ∃ containers, old.containers = .ok containers

variable {request : ReviewRequest}

/-- Decisions about images, once those of the replaced version are let through as they are. -/
def spared (previous : List Reference) (decisions : List (Container × Option String)) :
    List (Container × Option String) :=
  decisions.map fun entry => (entry.1, if entry.1.image ∈ previous then none else entry.2)

theorem spared_containers (previous : List Reference)
    (decisions : List (Container × Option String)) :
    (spared previous decisions).map Prod.fst = decisions.map Prod.fst := by
  simp [spared]

/-- Sparing images takes away their patches, and keeps the others in their order. -/
theorem pins_spared_sublist (previous : List Reference)
    (decisions : List (Container × Option String)) :
    ((spared previous decisions).filterMap fun entry => entry.2.map (request.pin entry.1)).Sublist
      (decisions.filterMap fun entry => entry.2.map (request.pin entry.1)) := by
  induction decisions with
  | nil => exact .slnil
  | cons entry decisions ih =>
    obtain ⟨container, digest⟩ := entry
    rw [spared, List.map_cons]
    by_cases unchanged : container.image ∈ previous
    · rw [if_pos unchanged, List.filterMap_cons_none rfl]
      cases digest with
      | none => exact ih
      | some digest => exact ih.cons _
    · rw [if_neg unchanged]
      cases digest with
      | none => exact ih
      | some digest => exact ih.cons_cons _

end ReviewRequest

namespace Controller

/-- The same controller, which approves of unchanged images or does not. -/
def approvingUnchanged (controller : Controller) (approving : Bool) : Controller :=
  { controller with settings := { controller.settings with unchangedApproval := approving } }

variable {controller : Controller} {request : ReviewRequest} {patches : List Patch}

section Versions

/-- The owners are asked for in the same way. -/
theorem ownerImages_approvingUnchanged {approving : Bool}
    {images : Except Denial (List Reference)}
    (h : (controller.approvingUnchanged approving).OwnerImages request images) (other : Bool) :
    (controller.approvingUnchanged other).OwnerImages request images := by
  have same := parentImages_eq.mpr h
  -- The lookup of owners does not read the setting, so that both lookups are one term.
  exact parentImages_eq.mp same

theorem replacedImages_unasked {images : Except Denial (List Reference)}
    (h : (controller.approvingUnchanged false).ReplacedImages request images) :
    images = .ok [] := by
  cases h with
  | unasked _ => rfl
  | listed approving => cases approving
  | unlisted approving => cases approving

/-- What can be listed of the replaced version, when unchanged images are approved. -/
theorem replacedImages_approving (controller : Controller) (request : ReviewRequest) :
    (∃ previous,
        (controller.approvingUnchanged true).ReplacedImages request (.ok previous) ∧
        request.ReplacesListed) ∨
      ∃ denial, (controller.approvingUnchanged true).ReplacedImages request (.error denial) ∧
        ¬ request.ReplacesListed := by
  obtain ⟨images, known⟩ : ∃ images,
      (controller.approvingUnchanged true).ReplacedImages request images :=
    ⟨_, previousImages_eq.mp rfl⟩
  cases known with
  | unasked unasked =>
    refine .inl ⟨[], .unasked unasked, ?_⟩
    intro update old given
    obtain off | other | absent := unasked
    · cases off
    · exact absurd update other
    · rw [absent] at given
      cases given
  | listed approving update given listed =>
    refine .inl ⟨_, .listed approving update given listed, ?_⟩
    intro _ old same
    obtain rfl := Option.some.inj (given.symm.trans same)
    exact ⟨_, listed⟩
  | unlisted approving update given unlisted =>
    refine .inr ⟨_, .unlisted approving update given unlisted, ?_⟩
    intro replaces
    obtain ⟨containers, listed⟩ := replaces update _ given
    rw [unlisted] at listed
    cases listed

/-- An image that is let through stays so when unchanged images are, maybe without its digest. -/
theorem Cleared.approvingUnchanged {parents : List Reference} {image : Reference}
    {digest : Option String}
    (h : (controller.approvingUnchanged false).Cleared parents [] image digest)
    (previous : List Reference) :
    (controller.approvingUnchanged true).Cleared parents previous image
      (if image ∈ previous then none else digest) := by
  by_cases unchanged : image ∈ previous
  · rw [if_pos unchanged]
    exact .unchanged unchanged
  · rw [if_neg unchanged]
    cases h with
    | owned run => exact .owned run
    | unchanged run => cases run
    | verified unowned _ selected named approved =>
      exact .verified unowned unchanged selected named approved

/-- Without the approval of unchanged images, the replaced version is not looked at. -/
theorem outcome_not_approving (controller : Controller) (request : ReviewRequest)
    (old : Option Workload) :
    ((controller.approvingUnchanged false).admission { request with oldObject := old }).outcome =
      ((controller.approvingUnchanged false).admission request).outcome := by
  rw [outcome_admission, outcome_admission]
  rfl

theorem outcome_without_old (controller : Controller) (request : ReviewRequest) :
    ((controller.approvingUnchanged true).admission { request with oldObject := none }).outcome =
      ((controller.approvingUnchanged false).admission request).outcome := by
  have nothing : (controller.approvingUnchanged true).ReplacedImages
      { request with oldObject := none } (.ok []) := .unasked (.inr (.inr rfl))
  rw [outcome_admission, outcome_admission, previousImages_eq.mpr nothing]
  rfl

end Versions

section Admissions

/-- What was admitted is admitted with some of its patches, once the replaced version is listed. -/
theorem admitted_approvingUnchanged {previous : List Reference}
    (admitted : ((controller.approvingUnchanged false).admission request).outcome =
      some (.ok patches))
    (replaced : (controller.approvingUnchanged true).ReplacedImages request (.ok previous)) :
    ∃ kept, ((controller.approvingUnchanged true).admission request).outcome = some (.ok kept) ∧
      kept.Sublist patches := by
  obtain ⟨prepared, verdicts⟩ := admits_iff.mp admitted
  obtain rfl := Except.ok.inj (replacedImages_unasked prepared.replaced)
  have owned := ownerImages_approvingUnchanged prepared.owned true
  refine ⟨_, admits_iff.mpr ⟨⟨?_, owned, replaced⟩, ?_⟩,
    ReviewRequest.pins_spared_sublist previous _⟩
  · rw [ReviewRequest.spared_containers]
    exact prepared.listed
  · intro entry spared
    obtain ⟨entry, member, rfl⟩ := List.mem_map.mp spared
    exact (verdicts entry member).approvingUnchanged previous

/-- What was admitted is denied for the version it replaces, if that cannot be listed. -/
theorem denied_approvingUnchanged {denial : Denial}
    (admitted : ((controller.approvingUnchanged false).admission request).outcome =
      some (.ok patches))
    (replaced : (controller.approvingUnchanged true).ReplacedImages request (.error denial)) :
    ((controller.approvingUnchanged true).admission request).outcome = some (.error denial) := by
  obtain ⟨prepared, -⟩ := admits_iff.mp admitted
  have owned := ownerImages_approvingUnchanged prepared.owned true
  exact denies_iff.mpr (.replaced prepared.listed owned replaced)

/-- What becomes of an admitted request is settled by the version it replaces alone. -/
theorem approvingUnchanged_cases
    (admitted : ((controller.approvingUnchanged false).admission request).outcome =
      some (.ok patches)) :
    (request.ReplacesListed ∧ ∃ kept, kept.Sublist patches ∧
        ((controller.approvingUnchanged true).admission request).outcome = some (.ok kept)) ∨
      ¬ request.ReplacesListed ∧ ∃ denial,
        ((controller.approvingUnchanged true).admission request).outcome =
          some (.error denial) := by
  obtain ⟨previous, replaced, listed⟩ | ⟨denial, replaced, unlisted⟩ :=
    controller.replacedImages_approving request
  · obtain ⟨kept, still, sublist⟩ := admitted_approvingUnchanged admitted replaced
    exact .inl ⟨listed, kept, sublist, still⟩
  · exact .inr ⟨unlisted, denial, denied_approvingUnchanged admitted replaced⟩

/-- A request that is admitted without the approval of unchanged images is admitted with it exactly
if the images of the version that it replaces can be listed, and then with some of its patches in
their order. Otherwise that version denies it, although nothing else of the admission depends on
it: without the approval, or without a replaced version, the request is admitted all the same. -/
theorem unchanged_approval_admits_iff
    (admitted : ((controller.approvingUnchanged false).admission request).outcome =
      some (.ok patches)) :
    ((∃ kept, ((controller.approvingUnchanged true).admission request).outcome =
        some (.ok kept)) ↔ request.ReplacesListed) ∧
      (∀ kept, ((controller.approvingUnchanged true).admission request).outcome =
        some (.ok kept) → kept.Sublist patches) ∧
      (∀ old denial, request.operation = .update → request.oldObject = some old →
        old.containers = .error denial →
        ((controller.approvingUnchanged true).admission request).outcome =
          some (.error denial)) ∧
      (∀ old, ((controller.approvingUnchanged false).admission
        { request with oldObject := old }).outcome = some (.ok patches)) ∧
      ((controller.approvingUnchanged true).admission
        { request with oldObject := none }).outcome = some (.ok patches) := by
  refine ⟨?_, ?_, ?_, ?_, ?_⟩
  · obtain ⟨listed, kept, -, still⟩ | ⟨unlisted, denial, denied⟩ :=
      approvingUnchanged_cases admitted
    · exact iff_of_true ⟨kept, still⟩ listed
    · apply iff_of_false _ unlisted
      rintro ⟨kept, still⟩
      rw [denied] at still
      cases still
  · intro kept still
    obtain ⟨-, kept', sublist, still'⟩ | ⟨-, denial, denied⟩ := approvingUnchanged_cases admitted
    · obtain rfl : kept' = kept := by simpa [still'] using still
      exact sublist
    · rw [denied] at still
      cases still
  · intro old denial update given unlisted
    apply denied_approvingUnchanged admitted
    exact .unlisted rfl update given unlisted
  · intro old
    rw [outcome_not_approving, admitted]
  · rw [outcome_without_old, admitted]

end Admissions

section Sample

open Workload

/-- An update of the sample, which replaces a version with another image. -/
def sampleUpdate (image : String) : ReviewRequest :=
  { sampleRequest (sample "web:v1") with
    operation := .update
    oldObject := some (sample image) }

theorem unchanged_approval_admits_iff_of_sample :
    (((sampleController sampleCluster).approvingUnchanged false).admission
        (sampleUpdate "web:v1")).outcome = some (.ok [samplePatch]) ∧
      (sampleUpdate "web:v1").ReplacesListed ∧
      ∃ kept, (((sampleController sampleCluster).approvingUnchanged true).admission
        (sampleUpdate "web:v1")).outcome = some (.ok kept) ∧ kept.Sublist [samplePatch] := by
  have admitted : (((sampleController sampleCluster).approvingUnchanged false).admission
      (sampleUpdate "web:v1")).outcome = some (.ok [samplePatch]) := rfl
  have listed : (sample "web:v1").containers = .ok [sampleContainer] := rfl
  have replaces : (sampleUpdate "web:v1").ReplacesListed := by
    intro _ old given
    obtain rfl : sample "web:v1" = old := Option.some.inj given
    exact ⟨_, listed⟩
  obtain ⟨exact_iff, sublist, -⟩ := unchanged_approval_admits_iff admitted
  obtain ⟨kept, still⟩ := exact_iff.mpr replaces
  exact ⟨admitted, replaces, kept, still, sublist kept still⟩

/-- An update of an admitted object is denied for the image that it does away with. -/
theorem replaced_image_denies :
    (((sampleController sampleCluster).approvingUnchanged false).admission
        (sampleUpdate "Alice/Image")).outcome = some (.ok [samplePatch]) ∧
      (((sampleController sampleCluster).approvingUnchanged true).admission
        (sampleUpdate "Alice/Image")).outcome =
          some (.error (.trust (.reference "Alice/Image"))) := by
  constructor <;> rfl

end Sample

end Controller

end SignedAdmission
