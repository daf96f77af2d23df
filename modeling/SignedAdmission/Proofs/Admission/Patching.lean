import Mathlib.Data.List.Nodup
import SignedAdmission.Proofs.Admission.Outcome
import SignedAdmission.Proofs.Json.Replacement
import SignedAdmission.Proofs.Workload.Reading

/-! What becomes of an object when the patches of its admission are applied to it: the images that
were resolved to digests are pinned, and everything else stays. -/
namespace SignedAdmission

open Checks

namespace Patch

/-- Applies a patch that replaces something. There are no patches that do anything else. -/
def applyTo? (patch : Patch) (value : Json) : Option Json := do
  guard (patch.operation = "replace")
  value.replaceAt? (← Json.steps? patch.path) (.string patch.value)

/-- Applies patches one after the other. -/
def applyAll? (patches : List Patch) (value : Json) : Option Json :=
  patches.foldlM (fun value patch => patch.applyTo? value) value

theorem applyTo?_replace (path : List String) (text : String) (value : Json) :
    (replace path text).applyTo? value = value.replaceAt? path (.string text) := by
  have read : Json.steps? (replace path text).path = some path := Json.steps?_pointerText path
  rw [applyTo?, read]
  rfl

theorem applyAll?_replace (changes : List (List String × String)) (value : Json) :
    applyAll? (changes.map fun change => replace change.1 change.2) value =
      Json.replaceTexts? changes value := by
  simp only [applyAll?, Json.replaceTexts?, List.foldlM_map, applyTo?_replace]

end Patch

namespace Container

theorem path_eq (container : Container) (workload : Workload) :
    container.path workload.kind = "spec" :: workload.imagePath container.location := by
  simp [path, Workload.imagePath, location]

theorem location_of_path {a b : Container} {kind : WorkloadKind} (h : a.path kind = b.path kind) :
    a.location = b.location := by
  simp only [path, List.append_assoc, List.append_cancel_left_eq, List.cons.injEq, and_true] at h
  obtain ⟨group, index⟩ := h
  have index := Json.index?_eq_some.mpr index
  rw [Json.index?_eq_some.mpr rfl, Option.some.injEq] at index
  exact Prod.ext (ContainerGroup.text_injective group) index

end Container

namespace Workload

/-- The texts that pin images: for each container with a digest, where its image is written, and
what is to be written there. -/
def pinnedTexts (workload : Workload) (decisions : List (Container × Option String)) :
    List (List String × String) :=
  decisions.filterMap fun (container, digest) => digest.map fun digest =>
    (container.path workload.kind, (container.image.setDigest digest).canonical)

variable {fields : Json.Fields} {namespaceName : String} {workload : Workload}
  {containers : List Container} {decisions : List (Container × Option String)}

/-- The path of a container leads to the text of its image. -/
theorem at?_path (read : ofJson (.object fields) namespaceName = .ok workload)
    (listed : workload.containers = .ok containers) {container : Container}
    (member : container ∈ containers) :
    ∃ text, (Json.object fields).at? (container.path workload.kind) = some (.string text) ∧
      Reference.parse text = .ok container.image := by
  obtain ⟨text, written, parsed⟩ := (containers_eq_ok listed).2 container member
  refine ⟨text, ?_, parsed⟩
  rw [container.path_eq workload, at?_object read (by simp [imagePath])]
  obtain ⟨value, found, isText⟩ := Option.bind_eq_some_iff.mp written
  cases value with
  | string found' => rw [found, ← Option.some.inj isText]
  | null | bool _ | number _ | array _ | object _ => simp [Json.string?] at isText

theorem nodup_paths (listed : workload.containers = .ok containers) :
    (containers.map (·.path workload.kind)).Nodup := by
  have distinct := nodup_locations listed
  rw [List.Nodup, List.pairwise_map] at distinct ⊢
  exact distinct.imp fun apart same => apart (Container.location_of_path same)

theorem pinnedTexts_sublist :
    ((workload.pinnedTexts decisions).map Prod.fst).Sublist
      ((decisions.map Prod.fst).map (·.path workload.kind)) := by
  induction decisions with
  | nil => exact .slnil
  | cons entry decisions ih =>
    obtain ⟨container, digest⟩ := entry
    cases digest with
    | none => exact ih.cons _
    | some digest => exact ih.cons_cons _

/-- The patches for decisions about listed containers put the pinned texts in their places. -/
theorem exists_patched (read : ofJson (.object fields) namespaceName = .ok workload)
    (listed : workload.containers = .ok (decisions.map Prod.fst)) :
    ∃ after, Json.replaceTexts? (workload.pinnedTexts decisions) (.object fields) = some after ∧
      Json.Retexted (.object fields) after (workload.pinnedTexts decisions) := by
  refine Json.exists_retexted ((nodup_paths listed).sublist pinnedTexts_sublist) ?_
  intro path pinned
  obtain ⟨container, member, rfl⟩ := List.mem_map.mp (pinnedTexts_sublist.subset pinned)
  obtain ⟨text, written, -⟩ := at?_path read listed member
  exact ⟨text, written⟩

end Workload

namespace ReviewRequest

variable {request : ReviewRequest} {decisions : List (Container × Option String)}

/-- The patches of a request are those that put pinned texts in their places. -/
theorem pins_eq :
    (decisions.filterMap fun entry => entry.2.map (request.pin entry.1)) =
      (request.object.pinnedTexts decisions).map fun change => .replace change.1 change.2 := by
  rw [Workload.pinnedTexts, List.map_filterMap]
  refine List.filterMap_congr fun entry _ => ?_
  rw [Option.map_map]
  rfl

end ReviewRequest

namespace Controller

/-- The decisions behind an admission: every listed container is cleared, and some with a digest. -/
inductive Decided (controller : Controller) (request : ReviewRequest)
    (decisions : List (Container × Option String)) : Prop
  | intro {parents previous}
    (prepared : controller.Prepared request (decisions.map Prod.fst) parents previous)
    (verdicts : ∀ entry ∈ decisions, controller.Cleared parents previous entry.1.image entry.2) :
    Decided controller request decisions

theorem Decided.listed {controller : Controller} {request : ReviewRequest}
    {decisions : List (Container × Option String)} (h : controller.Decided request decisions) :
    request.object.containers = .ok (decisions.map Prod.fst) := by
  obtain ⟨prepared, -⟩ := h
  exact prepared.listed

theorem exists_decided_of_admitted {controller : Controller} {request : ReviewRequest}
    {patches : List Patch} (admitted : (controller.admission request).outcome = some (.ok patches)) :
    ∃ decisions, controller.Decided request decisions ∧
      patches = (request.object.pinnedTexts decisions).map fun change =>
        .replace change.1 change.2 := by
  obtain ⟨prepared, verdicts⟩ := admits_iff.mp admitted
  exact ⟨_, ⟨prepared, verdicts⟩, ReviewRequest.pins_eq⟩

end Controller

namespace Workload

/-- The patches of a workload lead to the texts that its images are read from, one for each entry of
its container lists. Those of an admission can all be applied, which pins the images with a digest
and changes nothing else. -/
theorem patches_pin_images {fields : Json.Fields} {namespaceName : String} {workload : Workload}
    (read : ofJson (.object fields) namespaceName = .ok workload) :
    (∀ containers, workload.containers = .ok containers →
      (∀ container ∈ containers, ∀ image, ∃ text,
        Json.pointer? (workload.patch container image).path (.object fields) =
            some (.string text) ∧
          Reference.parse text = .ok container.image) ∧
      (∀ images : Container → Reference,
        (containers.map fun container => (workload.patch container (images container)).path).Nodup) ∧
      containers.map Container.location = workload.locations ∧ workload.locations.Nodup) ∧
    ∀ (controller : Controller) (request : ReviewRequest) (patches : List Patch),
      request.object = workload →
      (controller.admission request).outcome = some (.ok patches) →
      ∃ decisions after, controller.Decided request decisions ∧
        patches = (workload.pinnedTexts decisions).map
          (fun change => .replace change.1 change.2) ∧
        Patch.applyAll? patches (.object fields) = some after ∧
        Json.Retexted (.object fields) after (workload.pinnedTexts decisions) := by
  refine ⟨fun containers listed => ⟨fun container member image => ?_, fun images => ?_, ?_, ?_⟩, ?_⟩
  · obtain ⟨text, written, parsed⟩ := at?_path read listed member
    exact ⟨text, (Json.pointer?_pointerText _ _).trans written, parsed⟩
  · have paths : (containers.map fun container => (workload.patch container (images container)).path) =
        (containers.map (·.path workload.kind)).map Json.pointerText := by
      rw [List.map_map]
      rfl
    rw [paths]
    exact List.Nodup.map (fun _ _ => Json.pointerText_injective) (nodup_paths listed)
  · exact (containers_eq_ok listed).1
  · rw [← (containers_eq_ok listed).1]
    exact nodup_locations listed
  · rintro controller request patches rfl admitted
    obtain ⟨decisions, decided, rfl⟩ := Controller.exists_decided_of_admitted admitted
    obtain ⟨after, replaced, retexted⟩ := exists_patched read decided.listed
    exact ⟨decisions, after, decided, rfl, (Patch.applyAll?_replace _ _).trans replaced, retexted⟩

section Sample

/-- A deployment that runs one image. -/
def sampleFields (image : String) : Json.Fields :=
  [("apiVersion", .string "apps/v1"), ("kind", .string "Deployment"),
    ("metadata", .object [("name", .string "web"), ("uid", .string "d1")]),
    ("spec", .object [("template", .object [("spec", .object [
      ("containers", .array [.object [("image", .string image)]])])])])]

def sample (image : String) : Workload where
  kind := .deployment
  apiVersion := "apps/v1"
  namespaceName := "shop"
  name := "web"
  uid := some "d1"
  owners := []
  spec := ((sampleFields image).lookup "spec").getD .null

def sampleContainer : Container :=
  ⟨.containers, 0, ⟨"docker.io", "library", "web", some "v1", none⟩⟩

def sampleDigest : String := "ba7816bf8f01cfea414140de5dae2223b00361a396177a9cb410ff61f20015ad"

/-- Every image is pinned to the same digest. -/
def sampleController (cluster : Cluster) : Controller where
  policy := ⟨[⟨0, ⟨"*", none, []⟩, [.anyText]⟩]⟩
  validators := ⟨[⟨"default", fun _ _ => .finished (.ok (some sampleDigest)), true⟩]⟩
  cluster := cluster
  settings := .standard

def sampleRequest (object : Workload) : ReviewRequest where
  uid := "r1"
  kind := object.kind.text
  namespaceName := "shop"
  operation := .create
  user := "admin"
  object := object
  oldObject := none

def sampleCluster : Cluster := fun _ => .error "unavailable"

def samplePatch : Patch where
  operation := "replace"
  path := "/spec/template/spec/containers/0/image"
  value := "docker.io/library/web:v1@sha256:" ++ sampleDigest

theorem patches_pin_images_of_sample :
    (∃ text, Json.pointer? ((sample "web:v1").patch sampleContainer sampleContainer.image).path
        (.object (sampleFields "web:v1")) = some (.string text) ∧
      Reference.parse text = .ok sampleContainer.image) ∧
    ∃ decisions after,
      (sampleController sampleCluster).Decided (sampleRequest (sample "web:v1")) decisions ∧
      Patch.applyAll? [samplePatch] (.object (sampleFields "web:v1")) = some after ∧
      Json.Retexted (.object (sampleFields "web:v1")) after
        ((sample "web:v1").pinnedTexts decisions) := by
  have read : ofJson (.object (sampleFields "web:v1")) "shop" = .ok (sample "web:v1") := rfl
  have listed : (sample "web:v1").containers = .ok [sampleContainer] := rfl
  have admitted : ((sampleController sampleCluster).admission
      (sampleRequest (sample "web:v1"))).outcome = some (.ok [samplePatch]) := rfl
  obtain ⟨listing, effect⟩ := patches_pin_images read
  obtain ⟨written, -⟩ := listing _ listed
  obtain ⟨decisions, after, decided, -, applied, retexted⟩ := effect _ _ _ rfl admitted
  exact ⟨written _ List.mem_cons_self _, decisions, after, decided, applied, retexted⟩

end Sample

end Workload

end SignedAdmission
