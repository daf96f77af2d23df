import SignedAdmission.Proofs.Admission.Verdict
import SignedAdmission.Proofs.Workload.Containers

/-! What comes of a request: it is admitted with the patches of all its images, or denied for the
first thing that is wrong, or never decided. -/
namespace SignedAdmission

open Checks

namespace ReviewRequest

variable {request : ReviewRequest}

/-- The patch that pins the image of a container. -/
def pin (request : ReviewRequest) (container : Container) (digest : String) : Patch where
  operation := "replace"
  path := Json.pointerText (["spec"] ++ request.object.kind.podSpecPath ++
    [container.group.text, toString container.index, "image"])
  value := (container.image.setDigest digest).canonical

theorem patch?_eq_ok {container : Container} {outcome : Except TrustError (Option String)}
    {patch : Option Patch} :
    request.patch? container outcome = .ok patch ↔
      ∃ digest, outcome = .ok digest ∧ patch = digest.map (request.pin container) := by
  cases outcome with
  | error e => simp [patch?]
  | ok digest =>
    simp only [patch?, Except.ok.injEq, exists_eq_left', eq_comm (a := patch)]
    rfl

theorem patch?_eq_error {container : Container} {outcome : Except TrustError (Option String)}
    {denial : Denial} :
    request.patch? container outcome = .error denial ↔
      ∃ e, outcome = .error e ∧
        denial = .image (request.context ++ " image=" ++ container.image.canonical) e := by
  cases outcome with
  | error e => simp [patch?, eq_comm]
  | ok digest => simp [patch?]

variable {decided : List (Container × Except TrustError (Option String))}

/-- All patches are there if all outcomes are approvals. -/
theorem patches_eq_ok {patches : List Patch} :
    request.patches decided = .ok patches ↔
      ∃ cleared : List (Container × Option String),
        decided = cleared.map (fun entry => (entry.1, .ok entry.2)) ∧
        patches = cleared.filterMap fun entry => entry.2.map (request.pin entry.1) := by
  simp only [ReviewRequest.patches, bind_eq_ok, pure_eq_ok, mapM_eq_ok]
  constructor
  · rintro ⟨found, pairs, rfl⟩
    induction pairs with
    | nil => exact ⟨[], rfl, rfl⟩
    | @cons entry patch _ _ first _ ih =>
      obtain ⟨cleared, rfl, same⟩ := ih
      obtain ⟨container, outcome⟩ := entry
      obtain ⟨digest, rfl, rfl⟩ := patch?_eq_ok.mp first
      refine ⟨(container, digest) :: cleared, rfl, ?_⟩
      rw [List.filterMap_cons, List.filterMap_cons, same]
      rfl
  · rintro ⟨cleared, rfl, rfl⟩
    refine ⟨cleared.map fun entry => entry.2.map (request.pin entry.1), ?_, ?_⟩
    · rw [List.forall₂_map_left_iff, List.forall₂_map_right_iff]
      exact List.forall₂_same.mpr fun entry _ => patch?_eq_ok.mpr ⟨_, rfl, rfl⟩
    · rw [List.filterMap_map]
      rfl

/-- The first outcome that is no approval decides about the denial. -/
theorem patches_eq_error {denial : Denial} :
    request.patches decided = .error denial ↔
      ∃ before container e after, decided = before ++ (container, .error e) :: after ∧
        (∀ entry ∈ before, ∃ digest, entry.2 = .ok digest) ∧
        denial = .image (request.context ++ " image=" ++ container.image.canonical) e := by
  simp only [ReviewRequest.patches, bind_eq_error, pure_ne_error, and_false, exists_false,
    or_false, mapM_eq_error, patch?_eq_error, patch?_eq_ok]
  constructor
  · rintro ⟨before, ⟨container, outcome⟩, after, split, earlier, e, rfl, rfl⟩
    refine ⟨before, container, e, after, split, fun entry member => ?_, rfl⟩
    obtain ⟨patch, digest, approved, -⟩ := earlier entry member
    exact ⟨digest, approved⟩
  · rintro ⟨before, container, e, after, split, earlier, rfl⟩
    refine ⟨before, (container, .error e), after, split, fun entry member => ?_, e, rfl, rfl⟩
    obtain ⟨digest, approved⟩ := earlier entry member
    exact ⟨_, digest, approved, rfl⟩

end ReviewRequest

namespace Controller

section Requests

variable (controller : Controller) (request : ReviewRequest)

/-- The images of owners, where the settings and the object ask for them. -/
inductive OwnerImages : Except Denial (List Reference) → Prop
  | unasked (h : controller.settings.childApproval = false ∨ request.object.owners = []) :
    OwnerImages (.ok [])
  | asked (approving : controller.settings.childApproval = true)
    (owned : request.object.owners ≠ []) :
    OwnerImages (request.object.parents controller.cluster).images

/-- The images of the replaced version, where the settings and the request ask for them. -/
inductive ReplacedImages : Except Denial (List Reference) → Prop
  | unasked (h : controller.settings.unchangedApproval = false ∨ request.operation ≠ .update ∨
      request.oldObject = none) : ReplacedImages (.ok [])
  | listed {old containers} (approving : controller.settings.unchangedApproval = true)
    (update : request.operation = .update) (given : request.oldObject = some old)
    (listed : old.containers = .ok containers) :
    ReplacedImages (.ok (containers.map Container.image))
  | unlisted {old denial} (approving : controller.settings.unchangedApproval = true)
    (update : request.operation = .update) (given : request.oldObject = some old)
    (unlisted : old.containers = .error denial) : ReplacedImages (.error denial)

/-- What is known before the images are looked at. -/
structure Prepared (containers : List Container) (parents previous : List Reference) : Prop where
  listed : request.object.containers = .ok containers
  owned : controller.OwnerImages request (.ok parents)
  replaced : controller.ReplacedImages request (.ok previous)

/-- Every container's image is let through, and those with a digest are pinned. -/
inductive Admits : List Patch → Prop
  | intro {parents previous} {cleared : List (Container × Option String)}
    (prepared : controller.Prepared request (cleared.map Prod.fst) parents previous)
    (verdicts : ∀ entry ∈ cleared, controller.Cleared parents previous entry.1.image entry.2) :
    Admits (cleared.filterMap fun entry => entry.2.map (request.pin entry.1))

/-- The first thing that is wrong: with the object, with its owners, with the version it replaces,
or with the first image that is refused, if a decision about every image is reached. -/
inductive Denies : Denial → Prop
  | containers {denial} (unlisted : request.object.containers = .error denial) : Denies denial
  | owners {containers denial} (listed : request.object.containers = .ok containers)
    (unknown : controller.OwnerImages request (.error denial)) : Denies denial
  | replaced {containers parents denial} (listed : request.object.containers = .ok containers)
    (owned : controller.OwnerImages request (.ok parents))
    (unknown : controller.ReplacedImages request (.error denial)) : Denies denial
  | image {before container after parents previous e}
    (prepared : controller.Prepared request (before ++ container :: after) parents previous)
    (cleared : ∀ earlier ∈ before, ∃ digest,
      controller.Cleared parents previous earlier.image digest)
    (refused : controller.Refused parents previous container.image e)
    (decided : ∀ later ∈ after, ¬ controller.Endless parents previous later.image) :
    Denies (.image (request.context ++ " image=" ++ container.image.canonical) e)

/-- The verification of some image never ends. -/
inductive Stalls : Prop
  | intro {containers parents previous container}
    (prepared : controller.Prepared request containers parents previous)
    (member : container ∈ containers)
    (endless : controller.Endless parents previous container.image) : Stalls

end Requests

section Steps

variable {controller : Controller} {request : ReviewRequest}

def parentImages (controller : Controller) (request : ReviewRequest) :
    Except Denial (List Reference) :=
  match controller.parentLookup? request.object with
  | none => .ok []
  | some lookup => lookup.images

theorem parentImages_eq {images : Except Denial (List Reference)} :
    controller.parentImages request = images ↔ controller.OwnerImages request images := by
  rw [parentImages, parentLookup?]
  constructor
  · rintro rfl
    split
    case h_1 unasked => exact .unasked (by simpa [Classical.or_iff_not_imp_left] using unasked)
    case h_2 lookup asked =>
      simp only [Option.ite_none_right_eq_some, Bool.and_eq_true, Bool.not_eq_true',
        List.isEmpty_eq_false_iff, Option.some.injEq] at asked
      obtain ⟨⟨approving, owned⟩, rfl⟩ := asked
      exact .asked approving owned
  · intro h
    cases h with
    | unasked h =>
      have unasked : ¬ (controller.settings.childApproval && !request.object.owners.isEmpty) := by
        simpa [Classical.or_iff_not_imp_left] using h
      rw [if_neg unasked]
    | asked approving owned => simp [approving, owned]

theorem previousImages_eq {images : Except Denial (List Reference)} :
    controller.previousImages request = images ↔ controller.ReplacedImages request images := by
  constructor
  · rintro rfl
    rw [previousImages]
    split
    case h_1 old approving update given =>
      cases read : old.containers with
      | ok containers => exact .listed approving update given read
      | error denial => exact .unlisted approving update given read
    case h_2 other =>
      refine .unasked ?_
      by_contra asked
      simp only [not_or, not_not, Bool.not_eq_false] at asked
      obtain ⟨approving, update, given⟩ := asked
      obtain ⟨old, given⟩ := Option.ne_none_iff_exists'.mp given
      exact other old approving update given
  · intro h
    cases h with
    | unasked h =>
      rw [previousImages]
      split
      case h_1 old approving update given =>
        simp [approving, update, given] at h
      case h_2 => rfl
    | listed approving update given listed =>
      simp [previousImages, approving, update, given, listed]
    | unlisted approving update given unlisted =>
      simp [previousImages, approving, update, given, unlisted]

/-- The steps of an admission up to the verifications, each of which may end it. -/
theorem outcome_admission :
    (controller.admission request).outcome =
      match request.object.containers with
      | .error denial => some (.error denial)
      | .ok containers =>
        match controller.parentImages request with
        | .error denial => some (.error denial)
        | .ok parents =>
          match controller.previousImages request with
          | .error denial => some (.error denial)
          | .ok previous => (controller.conclude request containers parents previous).outcome := by
  have withParents (containers : List Container) (parents : List Reference) :
      (controller.admitWithParents request containers parents).outcome =
        match controller.previousImages request with
        | .error denial => some (.error denial)
        | .ok previous => (controller.conclude request containers parents previous).outcome := by
    rw [admitWithParents]
    cases controller.previousImages request <;> rfl
  rw [admission]
  cases request.object.containers with
  | error denial => rfl
  | ok containers =>
    simp only [parentImages]
    cases controller.parentLookup? request.object with
    | none => exact withParents containers []
    | some lookup =>
      simp only
      cases lookup.images with
      | error denial => rfl
      | ok parents => exact withParents containers parents

end Steps

section Conclusion

variable {controller : Controller} {request : ReviewRequest} {containers : List Container}
  {parents previous : List Reference}

theorem outcome_conclude :
    (controller.conclude request containers parents previous).outcome =
      (containers.mapM fun container =>
        (controller.finding parents previous container.image).outcome.map (container, ·)).map
          request.patches := by
  simp only [conclude, List.mapM_map]
  rfl

/-- The outcomes of all verifications, with the containers in order, if all of them end. -/
theorem decided_iff {decided : List (Container × Except TrustError (Option String))} :
    (containers.mapM fun container =>
        (controller.finding parents previous container.image).outcome.map (container, ·)) =
          some decided ↔
      containers = decided.map Prod.fst ∧
        ∀ entry ∈ decided,
          (controller.finding parents previous entry.1.image).outcome = some entry.2 := by
  rw [mapM_eq_some]
  induction decided generalizing containers with
  | nil => simp
  | cons entry rest ih =>
    rw [List.forall₂_cons_right_iff, List.map_cons, List.forall_mem_cons]
    simp only [ih]
    simp only [Option.map_eq_some_iff]
    constructor
    · rintro ⟨container, _, ⟨outcome, first, rfl⟩, ⟨rfl, others⟩, rfl⟩
      exact ⟨rfl, first, others⟩
    · rintro ⟨rfl, first, others⟩
      exact ⟨_, _, ⟨_, first, rfl⟩, ⟨rfl, others⟩, rfl⟩

theorem exists_decided
    (ends : ∀ container ∈ containers, ¬ controller.Endless parents previous container.image) :
    ∃ decided, (containers.mapM fun container =>
      (controller.finding parents previous container.image).outcome.map (container, ·)) =
        some decided := by
  rw [← Option.ne_none_iff_exists', Ne, mapM_eq_none]
  rintro ⟨container, member, endless⟩
  rw [Option.map_eq_none_iff, outcome_eq_none] at endless
  exact ends container member endless

theorem conclude_eq_ok {patches : List Patch} :
    (controller.conclude request containers parents previous).outcome = some (.ok patches) ↔
      ∃ cleared : List (Container × Option String), containers = cleared.map Prod.fst ∧
        (∀ entry ∈ cleared, controller.Cleared parents previous entry.1.image entry.2) ∧
        patches = cleared.filterMap fun entry => entry.2.map (request.pin entry.1) := by
  simp only [outcome_conclude, Option.map_eq_some_iff, decided_iff, ReviewRequest.patches_eq_ok]
  constructor
  · rintro ⟨_, ⟨rfl, verdicts⟩, cleared, rfl, rfl⟩
    refine ⟨cleared, by simp, fun entry member => ?_, rfl⟩
    exact outcome_eq_ok.mp (verdicts _ (List.mem_map_of_mem member))
  · rintro ⟨cleared, rfl, verdicts, rfl⟩
    refine ⟨_, ⟨?_, ?_⟩, cleared, rfl, rfl⟩
    · simp
    · intro _ mapped
      obtain ⟨entry, member, rfl⟩ := List.mem_map.mp mapped
      exact outcome_eq_ok.mpr (verdicts entry member)

theorem conclude_eq_error {denial : Denial} :
    (controller.conclude request containers parents previous).outcome = some (.error denial) ↔
      ∃ before container e after, containers = before ++ container :: after ∧
        (∀ earlier ∈ before, ∃ digest,
          controller.Cleared parents previous earlier.image digest) ∧
        controller.Refused parents previous container.image e ∧
        (∀ later ∈ after, ¬ controller.Endless parents previous later.image) ∧
        denial = .image (request.context ++ " image=" ++ container.image.canonical) e := by
  simp only [outcome_conclude, Option.map_eq_some_iff, decided_iff, ReviewRequest.patches_eq_error]
  constructor
  · rintro ⟨_, ⟨rfl, verdicts⟩, before, container, e, after, rfl, approved, rfl⟩
    refine ⟨before.map Prod.fst, container, e, after.map Prod.fst, by simp, ?_, ?_, ?_, rfl⟩
    · intro _ mapped
      obtain ⟨entry, member, rfl⟩ := List.mem_map.mp mapped
      obtain ⟨digest, approved⟩ := approved entry member
      refine ⟨digest, outcome_eq_ok.mp ?_⟩
      rw [← approved]
      exact verdicts entry (List.mem_append_left _ member)
    · exact outcome_eq_error.mp (verdicts _ (List.mem_append_right _ List.mem_cons_self))
    · intro _ mapped
      obtain ⟨entry, member, rfl⟩ := List.mem_map.mp mapped
      have ended := verdicts entry (List.mem_append_right _ (List.mem_cons_of_mem _ member))
      rw [← outcome_eq_none, ended]
      simp
  · rintro ⟨before, container, e, after, rfl, cleared, refused, ends, rfl⟩
    have ends : ∀ other ∈ before ++ container :: after,
        ¬ controller.Endless parents previous other.image := by
      rw [List.forall_mem_append, List.forall_mem_cons]
      refine ⟨fun earlier member => ?_, refused.not_endless, ends⟩
      obtain ⟨digest, approved⟩ := cleared earlier member
      exact approved.not_endless
    obtain ⟨decided, all⟩ := exists_decided ends
    obtain ⟨containers, verdicts⟩ := decided_iff.mp all
    obtain ⟨first, rest, rfl, rfl, split⟩ := List.map_eq_append_iff.mp containers.symm
    obtain ⟨⟨_, outcome⟩, last, rfl, rfl, rfl⟩ := List.map_eq_cons_iff.mp split
    have verdict := verdicts _ (List.mem_append_right _ List.mem_cons_self)
    rw [outcome_eq_error.mpr refused] at verdict
    obtain rfl : Except.error e = outcome := by simpa using verdict
    refine ⟨_, ⟨containers, verdicts⟩, first, _, e, last, rfl, fun entry member => ?_, rfl⟩
    obtain ⟨digest, approved⟩ := cleared _ (List.mem_map_of_mem member)
    have verdict := verdicts entry (List.mem_append_left _ member)
    rw [outcome_eq_ok.mpr approved] at verdict
    exact ⟨digest, by simpa using verdict.symm⟩

theorem conclude_eq_none :
    (controller.conclude request containers parents previous).outcome = none ↔
      ∃ container ∈ containers, controller.Endless parents previous container.image := by
  simp only [outcome_conclude, Option.map_eq_none_iff, mapM_eq_none, outcome_eq_none]

end Conclusion

section Outcomes

variable {controller : Controller} {request : ReviewRequest}

theorem outcome_of_prepared {containers : List Container} {parents previous : List Reference}
    (prepared : controller.Prepared request containers parents previous) :
    (controller.admission request).outcome =
      (controller.conclude request containers parents previous).outcome := by
  rw [outcome_admission, prepared.listed, parentImages_eq.mpr prepared.owned,
    previousImages_eq.mpr prepared.replaced]

/-- What goes wrong before the images are looked at denies the request. -/
theorem prepared_or_denied (controller : Controller) (request : ReviewRequest) :
    (∃ containers parents previous, controller.Prepared request containers parents previous) ∨
      ∃ denial, controller.Denies request denial ∧
        (controller.admission request).outcome = some (.error denial) := by
  rw [outcome_admission]
  cases listed : request.object.containers with
  | error denial => exact .inr ⟨denial, .containers listed, rfl⟩
  | ok containers =>
    cases owned : controller.parentImages request with
    | error denial => exact .inr ⟨denial, .owners listed (parentImages_eq.mp owned), rfl⟩
    | ok parents =>
      cases replaced : controller.previousImages request with
      | error denial =>
        exact .inr ⟨denial,
          .replaced listed (parentImages_eq.mp owned) (previousImages_eq.mp replaced), rfl⟩
      | ok previous =>
        exact .inl ⟨containers, parents, previous, listed, parentImages_eq.mp owned,
          previousImages_eq.mp replaced⟩

theorem admits_iff {patches : List Patch} :
    (controller.admission request).outcome = some (.ok patches) ↔
      controller.Admits request patches := by
  constructor
  · intro h
    obtain ⟨containers, parents, previous, prepared⟩ | ⟨denial, -, denied⟩ :=
      controller.prepared_or_denied request
    · rw [outcome_of_prepared prepared] at h
      obtain ⟨cleared, rfl, verdicts, rfl⟩ := conclude_eq_ok.mp h
      exact ⟨prepared, verdicts⟩
    · rw [denied] at h
      cases h
  · rintro ⟨prepared, verdicts⟩
    rw [outcome_of_prepared prepared]
    exact conclude_eq_ok.mpr ⟨_, rfl, verdicts, rfl⟩

theorem denies_iff {denial : Denial} :
    (controller.admission request).outcome = some (.error denial) ↔
      controller.Denies request denial := by
  constructor
  · intro h
    obtain ⟨containers, parents, previous, prepared⟩ | ⟨other, denies, denied⟩ :=
      controller.prepared_or_denied request
    · rw [outcome_of_prepared prepared] at h
      obtain ⟨before, container, e, after, rfl, cleared, refused, decided, rfl⟩ :=
        conclude_eq_error.mp h
      exact .image prepared cleared refused decided
    · rw [denied] at h
      obtain rfl : other = denial := by simpa using h
      exact denies
  · intro h
    cases h with
    | containers unlisted => rw [outcome_admission, unlisted]
    | owners listed unknown => rw [outcome_admission, listed, parentImages_eq.mpr unknown]
    | replaced listed owned unknown =>
      rw [outcome_admission, listed, parentImages_eq.mpr owned, previousImages_eq.mpr unknown]
    | image prepared cleared refused decided =>
      rw [outcome_of_prepared prepared]
      exact conclude_eq_error.mpr ⟨_, _, _, _, rfl, cleared, refused, decided, rfl⟩

theorem stalls_iff :
    (controller.admission request).outcome = none ↔ controller.Stalls request := by
  constructor
  · intro h
    obtain ⟨containers, parents, previous, prepared⟩ | ⟨denial, -, denied⟩ :=
      controller.prepared_or_denied request
    · rw [outcome_of_prepared prepared] at h
      obtain ⟨container, member, endless⟩ := conclude_eq_none.mp h
      exact ⟨prepared, member, endless⟩
    · rw [denied] at h
      cases h
  · rintro ⟨prepared, member, endless⟩
    rw [outcome_of_prepared prepared]
    exact conclude_eq_none.mpr ⟨_, member, endless⟩

/-- A request is admitted exactly if every image of it is let through, with one patch for each
digest in the order of the containers; it is denied exactly for the first thing that is wrong; and
there is no outcome exactly if some verification never ends. -/
theorem admission_outcome (controller : Controller) (request : ReviewRequest) :
    (∀ patches, (controller.admission request).outcome = some (.ok patches) ↔
        controller.Admits request patches) ∧
      (∀ denial, (controller.admission request).outcome = some (.error denial) ↔
        controller.Denies request denial) ∧
      ((controller.admission request).outcome = none ↔ controller.Stalls request) ∧
      ∀ containers, request.object.containers = .ok containers →
        containers.Pairwise Container.Precedes :=
  ⟨fun _ => admits_iff, fun _ => denies_iff, stalls_iff, fun _ => Workload.containers_ordered⟩

end Outcomes

end Controller

end SignedAdmission
