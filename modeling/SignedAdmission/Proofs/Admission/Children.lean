import SignedAdmission.Proofs.Admission.Patching
import SignedAdmission.Proofs.Reference.Pinned

/-! Workloads that run the images of an admitted owner. Once the patches of its admission are
applied, the owner can be read again, and what runs no other images is admitted for its sake. -/
namespace SignedAdmission

open Checks

namespace Workload

variable {fields : Json.Fields} {namespaceName : String} {workload : Workload}
  {changes : List (List String × String)} {after : Json}

/-- Texts below the spec can be replaced without an effect on anything else that is read. -/
theorem ofJson_replaceTexts? (read : ofJson (.object fields) namespaceName = .ok workload)
    (below : ∀ path ∈ changes.map Prod.fst, path.head? = some "spec")
    (replaced : Json.replaceTexts? changes (.object fields) = some after) :
    ∃ fields' spec, after = .object fields' ∧
      ofJson after namespaceName = .ok { workload with spec := spec } := by
  induction changes generalizing fields workload with
  | nil =>
    obtain rfl : Json.object fields = after := Option.some.inj replaced
    exact ⟨fields, workload.spec, rfl, read⟩
  | cons change changes ih =>
    obtain ⟨path, text⟩ := change
    obtain ⟨first, others⟩ := List.forall_mem_cons.mp below
    obtain ⟨path, rfl⟩ := List.head?_eq_some_iff.mp first
    rw [Json.replaceTexts?, List.foldlM_cons] at replaced
    obtain ⟨middle, replacedFirst, replacedRest⟩ := Option.bind_eq_some_iff.mp replaced
    obtain ⟨spec, changed, found, -, rfl⟩ := Json.replaceAt?_cons_eq_some.mp replacedFirst
    obtain ⟨fields', spec, same, again⟩ :=
      ih (ofJson_setSpec read (Option.isSome_of_eq_some found) changed) others replacedRest
    exact ⟨fields', spec, same, again⟩

/-- A pinned text stands for an image that can be read. -/
theorem parse_pinnedTexts {decisions : List (Container × Option String)}
    (listed : workload.containers = .ok (decisions.map Prod.fst))
    (digests : ∀ container digest, (container, some digest) ∈ decisions →
      Reference.isDigest digest.toList = true)
    (short : ∀ container ∈ decisions.map Prod.fst,
      container.image.repositoryPath.length ≤ Reference.maxNameLength) :
    ∀ change ∈ workload.pinnedTexts decisions, ∃ image, Reference.parse change.2 = .ok image := by
  intro change pinned
  obtain ⟨⟨container, digest⟩, decided, pinned⟩ := List.mem_filterMap.mp pinned
  obtain ⟨digest, rfl, rfl⟩ := Option.map_eq_some_iff.mp pinned
  have member : container ∈ decisions.map Prod.fst := List.mem_map_of_mem decided
  obtain ⟨text, -, parsed⟩ := (containers_eq_ok listed).2 container member
  exact ⟨_, Reference.parse_setDigest parsed (digests container digest decided)
    (short container member)⟩

/-- A workload and what became of it once texts were replaced: what both show below their spec. -/
theorem outline_spec {fields' : Json.Fields} {parent : Workload}
    (read : ofJson (.object fields) namespaceName = .ok workload)
    (again : ofJson (.object fields') namespaceName = .ok parent)
    (retexted : Json.Retexted (.object fields) (.object fields') changes) {path : List String}
    (below : path ≠ []) (apart : "spec" :: path ∉ changes.map Prod.fst) :
    (parent.spec.at? path).map Json.outline = (workload.spec.at? path).map Json.outline := by
  rw [← at?_object read below, ← at?_object again below]
  exact retexted.kept _ apart

section Pinned

variable {fields' : Json.Fields} {parent : Workload} {decisions : List (Container × Option String)}

/-- Only images are pinned, and no place above them. -/
theorem above_not_pinned {path : List String}
    (above : path.length < workload.kind.podSpecPath.length + 4) :
    path ∉ (workload.pinnedTexts decisions).map Prod.fst := by
  intro pinned
  obtain ⟨container, -, rfl⟩ := List.mem_map.mp (pinnedTexts_sublist.subset pinned)
  simp [Container.path] at above

theorem locations_eq (sameKind : parent.kind = workload.kind)
    (same : ∀ group : ContainerGroup,
      (parent.spec.at? (workload.kind.podSpecPath ++ [group.text])).map Json.outline =
        (workload.spec.at? (workload.kind.podSpecPath ++ [group.text])).map Json.outline) :
    parent.locations = workload.locations := by
  have sameLength (group : ContainerGroup) :
      (parent.entries group).length = (workload.entries group).length := by
    rw [entries, entries, sameKind]
    exact Json.length_of_outline (same group)
  simp only [locations, sameLength]

/-- What an admission leaves of a workload has its containers listed again. -/
theorem exists_containers_pinned (read : ofJson (.object fields) namespaceName = .ok workload)
    (again : ofJson (.object fields') namespaceName = .ok parent)
    (sameKind : parent.kind = workload.kind)
    (listed : workload.containers = .ok (decisions.map Prod.fst))
    (retexted : Json.Retexted (.object fields) (.object fields') (workload.pinnedTexts decisions))
    (readable : ∀ change ∈ workload.pinnedTexts decisions,
      ∃ image, Reference.parse change.2 = .ok image) :
    ∃ containers, parent.containers = .ok containers := by
  have outlines {path : List String} (below : path ≠ [])
      (above : path.length < workload.kind.podSpecPath.length + 3) :
      (parent.spec.at? path).map Json.outline = (workload.spec.at? path).map Json.outline :=
    outline_spec read again retexted below (above_not_pinned (by simpa using above))
  have located : parent.locations = workload.locations :=
    locations_eq sameKind fun group => outlines (by simp) (by simp)
  obtain ⟨podSpec, found⟩ : ∃ podSpec, parent.spec.at? parent.kind.podSpecPath = some podSpec := by
    rw [sameKind]
    by_cases whole : workload.kind.podSpecPath = []
    · exact ⟨parent.spec, by rw [whole, Json.at?_nil]⟩
    · obtain ⟨podSpec, found⟩ := podSpec_of_containers listed
      have same := outlines whole (by simp)
      rw [found] at same
      obtain ⟨podSpec, found, -⟩ := Option.map_eq_some_iff.mp same
      exact ⟨podSpec, found⟩
  refine exists_containers found fun location place => ?_
  rw [located, ← (containers_eq_ok listed).1] at place
  obtain ⟨container, member, rfl⟩ := List.mem_map.mp place
  have written : (Json.object fields').at? (container.path workload.kind) =
      parent.spec.at? (parent.imagePath container.location) := by
    rw [← at?_object again (by simp [imagePath]), ← sameKind, container.path_eq]
  by_cases pinned : container.path workload.kind ∈ (workload.pinnedTexts decisions).map Prod.fst
  · obtain ⟨change, decided, place⟩ := List.mem_map.mp pinned
    obtain ⟨image, parsed⟩ := readable change decided
    refine ⟨change.2, image, ?_, parsed⟩
    rw [imageText?, ← written, ← place, retexted.changed change decided]
    rfl
  · obtain ⟨text, old, parsed⟩ := at?_path read listed member
    refine ⟨text, container.image, ?_, parsed⟩
    rw [imageText?, ← written, Json.eq_string_of_outline (retexted.kept _ pinned) old]
    rfl

end Pinned

end Workload

namespace Controller

/-- An admitted object with its patches applied can be read again. -/
theorem exists_admitted {fields : Json.Fields} {namespaceName : String} {controller : Controller}
    {request : ReviewRequest} {patches : List Patch}
    (read : Workload.ofJson (.object fields) namespaceName = .ok request.object)
    (admitted : (controller.admission request).outcome = some (.ok patches))
    (digests : ∀ decisions, controller.Decided request decisions →
      ∀ container digest, (container, some digest) ∈ decisions →
        Reference.isDigest digest.toList = true)
    (short : ∀ containers, request.object.containers = .ok containers →
      ∀ container ∈ containers,
        container.image.repositoryPath.length ≤ Reference.maxNameLength) :
    ∃ after parent, Patch.applyAll? patches (.object fields) = some after ∧
      Workload.ofJson after namespaceName = .ok parent ∧
      ∃ containers, parent.containers = .ok containers := by
  obtain ⟨decisions, decided, rfl⟩ := exists_decided_of_admitted admitted
  obtain ⟨after, replaced, retexted⟩ := Workload.exists_patched read decided.listed
  have below : ∀ path ∈ (request.object.pinnedTexts decisions).map Prod.fst,
      path.head? = some "spec" := by
    intro path pinned
    obtain ⟨container, -, rfl⟩ := List.mem_map.mp (Workload.pinnedTexts_sublist.subset pinned)
    rfl
  obtain ⟨fields', spec, rfl, again⟩ := Workload.ofJson_replaceTexts? read below replaced
  refine ⟨_, _, (Patch.applyAll?_replace _ _).trans replaced, again, ?_⟩
  exact Workload.exists_containers_pinned read again rfl decided.listed retexted
    (Workload.parse_pinnedTexts decided.listed (digests decisions decided)
      (short _ decided.listed))

end Controller

namespace Workload

/-- The reference that the objects of a workload hold. -/
def owner (workload : Workload) (uid : String) : Owner where
  apiVersion := workload.apiVersion
  kind := workload.kind.text
  name := workload.name
  uid := uid

/-- Every container runs an image of another workload, which may be written differently. -/
structure RunsImagesOf (child parent : Workload) : Prop where
  podSpec : ∃ podSpec, child.spec.at? child.kind.podSpecPath = some podSpec
  images : ∀ location ∈ child.locations, ∃ text, child.imageText? location = some text ∧
    ∃ other ∈ parent.locations, ∃ same, parent.imageText? other = some same ∧
      Reference.parse text = Reference.parse same

/-- A workload has one owner, which the cluster knows, and runs images of that owner only. -/
structure ChildOf (cluster : Cluster) (child parent : Workload) (object : Json) : Prop where
  namespaceName : child.namespaceName = parent.namespaceName
  owners : ∃ uid, parent.uid = some uid ∧ child.owners = [parent.owner uid] ∧
    cluster ((parent.owner uid).path parent.kind parent.namespaceName) = .ok object
  images : child.RunsImagesOf parent

variable {child parent : Workload} {namespaceName : String}

/-- Images of a workload that can be read are the images of containers. -/
theorem RunsImagesOf.containers (h : child.RunsImagesOf parent) {parents : List Container}
    (listed : parent.containers = .ok parents) :
    ∃ containers, child.containers = .ok containers ∧
      ∀ container ∈ containers, container.image ∈ parents.map Container.image := by
  obtain ⟨located, images⟩ := containers_eq_ok listed
  have known : ∀ location ∈ child.locations, ∃ text, child.imageText? location = some text ∧
      ∃ image ∈ parents.map Container.image, Reference.parse text = .ok image := by
    intro location member
    obtain ⟨text, written, other, place, same, sameWritten, equal⟩ := h.images location member
    rw [← located] at place
    obtain ⟨container, run, rfl⟩ := List.mem_map.mp place
    obtain ⟨found, foundWritten, parsed⟩ := images container run
    obtain rfl : same = found := Option.some.inj (sameWritten.symm.trans foundWritten)
    exact ⟨text, written, _, List.mem_map_of_mem run, equal.trans parsed⟩
  obtain ⟨podSpec, found⟩ := h.podSpec
  obtain ⟨containers, childListed⟩ := exists_containers found fun location member => by
    obtain ⟨text, written, image, -, parsed⟩ := known location member
    exact ⟨text, image, written, parsed⟩
  refine ⟨containers, childListed, fun container member => ?_⟩
  obtain ⟨childLocated, childImages⟩ := containers_eq_ok childListed
  obtain ⟨text, written, image, run, parsed⟩ :=
    known container.location (childLocated ▸ List.mem_map_of_mem member)
  obtain ⟨found, foundWritten, childParsed⟩ := childImages container member
  obtain rfl : text = found := Option.some.inj (written.symm.trans foundWritten)
  obtain rfl : image = container.image := Except.ok.inj (parsed.symm.trans childParsed)
  exact run

theorem kind_of_text (kind : WorkloadKind) : WorkloadKind.ofText? kind.text = some kind := by
  cases kind <;> decide

/-- The images of its owner are found for a child. -/
theorem images_of_childOf {cluster : Cluster} {object : Json} {parents : List Container}
    (h : ChildOf cluster child parent object)
    (read : ofJson object namespaceName = .ok parent)
    (listed : parent.containers = .ok parents) :
    (child.parents cluster).images = .ok (parents.map Container.image) := by
  obtain ⟨slots, -, parts⟩ := ofJson_eq_ok.mp read
  obtain ⟨uid, known, owners, answered⟩ := h.owners
  have kind : (parent.owner uid).workloadKind? = some parent.kind := by
    rw [Owner.workloadKind?, owner, kind_of_text, Option.filter_some, parts.supported, if_pos rfl]
  rw [parts.namespaceName] at answered
  have found : (parent.owner uid).images parent.kind namespaceName cluster =
      .ok (parents.map Container.image) := by
    simp only [Owner.images, answered, Except.mapError, bind_eq_ok]
    refine ⟨object, rfl, parent, read, ?_⟩
    rw [if_neg (by simp [known, owner]), listed]
    rfl
  rw [Workload.parents, owners, ParentLookup.visit, kind, h.namespaceName, parts.namespaceName]
  simp only [found, ParentLookup.visit, List.nil_append]

end Workload

namespace Controller

/-- Once an object is admitted and patched, workloads that belong to it and run its images are
admitted without patches, whatever policy and validators there are for them. -/
theorem children_admitted {fields : Json.Fields} {namespaceName : String} {controller : Controller}
    {request : ReviewRequest} {patches : List Patch}
    (read : Workload.ofJson (.object fields) namespaceName = .ok request.object)
    (admitted : (controller.admission request).outcome = some (.ok patches))
    (digests : ∀ decisions, controller.Decided request decisions →
      ∀ container digest, (container, some digest) ∈ decisions →
        Reference.isDigest digest.toList = true)
    (short : ∀ containers, request.object.containers = .ok containers →
      ∀ container ∈ containers,
        container.image.repositoryPath.length ≤ Reference.maxNameLength) :
    ∃ after parent, Patch.applyAll? patches (.object fields) = some after ∧
      Workload.ofJson after namespaceName = .ok parent ∧
      ∀ (other : Controller) (child : ReviewRequest),
        other.settings.childApproval = true → child.operation = .create →
        Workload.ChildOf other.cluster child.object parent after →
        (other.admission child).outcome = some (.ok []) := by
  obtain ⟨after, parent, applied, again, containers, listed⟩ :=
    exists_admitted read admitted digests short
  refine ⟨after, parent, applied, again, fun other child approving create belongs => ?_⟩
  obtain ⟨run, childListed, images⟩ := belongs.images.containers listed
  have owned : child.object.owners ≠ [] := by
    obtain ⟨uid, -, owners, -⟩ := belongs.owners
    simp [owners]
  have parents : other.OwnerImages child (.ok (containers.map Container.image)) :=
    Workload.images_of_childOf belongs again listed ▸ .asked approving owned
  have previous : other.ReplacedImages child (.ok []) := .unasked (.inr (.inl (by simp [create])))
  let decisions : List (Container × Option String) := run.map (·, none)
  have unpinned : (decisions.filterMap fun entry => entry.2.map (child.pin entry.1)) = [] := by
    simp [decisions]
  rw [admits_iff, ← unpinned]
  refine ⟨⟨?_, parents, previous⟩, fun entry decided => ?_⟩
  · simpa [decisions, Function.comp_def] using childListed
  · obtain ⟨container, member, rfl⟩ := List.mem_map.mp decided
    exact .owned (images container member)

section Sample

open Workload

def samplePinned : String := "docker.io/library/web:v1@sha256:" ++ sampleDigest

/-- A replica set of the sample, written by someone who leaves out the default registry. -/
def sampleChild : Workload :=
  { sample ("web:v1@sha256:" ++ sampleDigest) with
    kind := .replicaSet
    name := "web-1"
    uid := none
    owners := [⟨"apps/v1", "Deployment", "web", "d1"⟩] }

/-- The sample is known as it was admitted. -/
def sampleKnown : Cluster := fun path =>
  if path = "apis/apps/v1/namespaces/shop/deployments/web"
  then .ok (.object (sampleFields samplePinned)) else .error "not found"

theorem sampleKnown_path {path : String}
    (h : path = "apis/apps/v1/namespaces/shop/deployments/web") :
    sampleKnown path = .ok (.object (sampleFields samplePinned)) :=
  if_pos h

/-- No rule is for any image. -/
def sampleOther : Controller where
  policy := ⟨[]⟩
  validators := ⟨[]⟩
  cluster := sampleKnown
  settings := .standard

theorem eq_sampleDigest {parents previous : List Reference} {image : Reference} {digest : String}
    (cleared : (sampleController sampleCluster).Cleared parents previous image (some digest)) :
    digest = sampleDigest := by
  cases cleared with
  | verified _ _ _ named approved =>
    simp only [Validators.named] at named
    split at named
    case h_1 found =>
      obtain rfl := Except.ok.inj named
      obtain rfl := List.mem_singleton.mp (List.mem_of_find?_eq_some found)
      simpa [Verification.finished, eq_comm] using approved
    case h_2 => simp at named

theorem childOf_sample :
    sampleChild.ChildOf sampleOther.cluster (sample samplePinned)
      (.object (sampleFields samplePinned)) where
  namespaceName := rfl
  owners := by
    have path : ((sample samplePinned).owner "d1").path .deployment "shop" =
        "apis/apps/v1/namespaces/shop/deployments/web" := by decide +kernel
    exact ⟨"d1", rfl, rfl, sampleKnown_path path⟩
  images := by
    have podSpec : (sampleChild.spec.at? sampleChild.kind.podSpecPath).isSome = true := rfl
    have located : sampleChild.locations = [(.containers, 0)] := rfl
    have other : (ContainerGroup.containers, 0) ∈ (sample samplePinned).locations := by
      rw [mem_locations]
      exact Nat.zero_lt_one
    have found : sampleChild.imageText? (.containers, 0) =
        some ("web:v1@sha256:" ++ sampleDigest) := rfl
    have run : (sample samplePinned).imageText? (.containers, 0) = some samplePinned := rfl
    have equal : Reference.parse ("web:v1@sha256:" ++ sampleDigest) =
        Reference.parse samplePinned := rfl
    refine ⟨Option.isSome_iff_exists.mp podSpec, fun location member => ?_⟩
    rw [located, List.mem_singleton] at member
    subst member
    exact ⟨_, found, _, other, _, run, equal⟩

theorem children_admitted_of_sample :
    ((sampleController sampleCluster).admission (sampleRequest (sample "web:v1"))).outcome =
        some (.ok [samplePatch]) ∧
      (sampleOther.admission (sampleRequest sampleChild)).outcome = some (.ok []) := by
  have read : ofJson (.object (sampleFields "web:v1")) "shop" = .ok (sample "web:v1") := rfl
  have admitted : ((sampleController sampleCluster).admission
      (sampleRequest (sample "web:v1"))).outcome = some (.ok [samplePatch]) := rfl
  have listed : (sample "web:v1").containers = .ok [sampleContainer] := rfl
  have applied : Patch.applyAll? [samplePatch] (.object (sampleFields "web:v1")) =
      some (.object (sampleFields samplePinned)) := rfl
  have again : ofJson (.object (sampleFields samplePinned)) "shop" =
      .ok (sample samplePinned) := rfl
  obtain ⟨after, parent, patched, reread, admits⟩ := by
    refine children_admitted read admitted ?_ ?_
    · rintro decisions ⟨-, verdicts⟩ container digest decided
      rw [eq_sampleDigest (verdicts _ decided)]
      decide +kernel
    · intro containers found container member
      obtain rfl : [sampleContainer] = containers := Except.ok.inj (listed.symm.trans found)
      obtain rfl := List.mem_singleton.mp member
      decide +kernel
  obtain rfl : _ = after := Option.some.inj (applied.symm.trans patched)
  obtain rfl : _ = parent := Except.ok.inj (again.symm.trans reread)
  exact ⟨admitted, admits sampleOther (sampleRequest sampleChild) rfl rfl childOf_sample⟩

end Sample

end Controller

end SignedAdmission
