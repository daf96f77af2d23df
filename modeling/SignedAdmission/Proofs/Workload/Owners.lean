import SignedAdmission.Proofs.Checks
import SignedAdmission.Workload.Parents

/-! The look at the owners of a workload. They are looked up in order up to the first one that is no
supported workload. There are no images if there is such an owner, but looks that fail before it
still count. -/
namespace SignedAdmission

open Checks

namespace Owner

/-- Whether an owner is one that can be looked up. -/
def isWorkload (owner : Owner) : Bool :=
  owner.workloadKind?.isSome

/-- The images that an owner runs; what is not looked up runs none. -/
def look (cluster : Cluster) (namespaceName : String) (owner : Owner) :
    Except Denial (List Reference) :=
  match owner.workloadKind? with
  | none => .ok []
  | some kind => owner.images kind namespaceName cluster

/-- The path that an owner is looked up at. -/
def AskedAt (namespaceName : String) (owner : Owner) (path : String) : Prop :=
  ∃ kind, owner.workloadKind? = some kind ∧ path = owner.path kind namespaceName

variable {cluster : Cluster} {namespaceName : String} {owner : Owner} {kind : WorkloadKind}

theorem look_of_known (known : owner.workloadKind? = some kind) :
    owner.look cluster namespaceName = owner.images kind namespaceName cluster := by
  rw [look, known]

/-- What is found at the path of an owner is told by its identifier only. -/
theorem images_eq_ok {images : List Reference} :
    owner.images kind namespaceName cluster = .ok images ↔
      ∃ object parent containers, cluster (owner.path kind namespaceName) = .ok object ∧
        Workload.ofJson object namespaceName = .ok parent ∧ parent.uid = some owner.uid ∧
        parent.containers = .ok containers ∧ containers.map Container.image = images := by
  simp only [Owner.images, bind_eq_ok, mapError_eq_ok]
  constructor
  · rintro ⟨object, answered, parent, read, rest⟩
    split at rest
    case isTrue => simp only [bind_eq_ok, throw_ne_ok, false_and, exists_false] at rest
    case isFalse same =>
      simp only [bind_eq_ok, pure_eq_ok] at rest
      obtain ⟨containers, listed, rfl⟩ := rest
      exact ⟨object, parent, containers, answered, read, by simpa using same, listed, rfl⟩
  · rintro ⟨object, parent, containers, answered, read, same, listed, rfl⟩
    refine ⟨object, answered, parent, read, ?_⟩
    rw [if_neg (by simp [same]), listed]
    rfl

end Owner

namespace ParentLookup

variable {cluster : Cluster} {namespaceName : String} {owners : List Owner}
  {found : List Reference}

/-- What a visit comes to. Each owner up to the first that is no workload adds its images, unless
the look at it fails, and the first failure is the outcome. -/
theorem images_visit :
    (visit cluster namespaceName found owners).images =
      (owners.takeWhile Owner.isWorkload).mapM (Owner.look cluster namespaceName) >>= fun lists =>
        .ok (if owners.all Owner.isWorkload = true then found ++ lists.flatten else []) := by
  -- The images found so far go along with the visit, so they are not fixed in the induction.
  induction owners generalizing found with
  | nil => simp [visit, bind, Except.bind, pure, Except.pure]
  | cons owner owners ih =>
    cases known : owner.workloadKind? with
    | none =>
      have unsupported : owner.isWorkload = false := by
        rw [Owner.isWorkload, known, Option.isSome_none]
      simp [visit, known, unsupported, bind, Except.bind, pure, Except.pure]
    | some kind =>
      have supported : owner.isWorkload = true := by
        rw [Owner.isWorkload, known, Option.isSome_some]
      simp only [visit, known, List.takeWhile_cons, supported, if_true, List.mapM_cons,
        Owner.look_of_known known, List.all_cons, Bool.true_and]
      cases looked : owner.images kind namespaceName cluster with
      | error denial => rfl
      | ok images =>
        simp only [ih]
        cases (owners.takeWhile Owner.isWorkload).mapM (Owner.look cluster namespaceName) with
        | error denial => rfl
        | ok lists => simp [bind, Except.bind, pure, Except.pure]

/-- Only owners before the first that is no workload are looked up. -/
theorem exists_of_mem_paths {path : String}
    (asked : path ∈ (visit cluster namespaceName found owners).paths) :
    ∃ owner ∈ owners.takeWhile Owner.isWorkload, owner.AskedAt namespaceName path := by
  induction owners generalizing found with
  | nil => simp [visit] at asked
  | cons owner owners ih =>
    cases known : owner.workloadKind? with
    | none => simp [visit, known] at asked
    | some kind =>
      have supported : owner.isWorkload = true := by
        rw [Owner.isWorkload, known, Option.isSome_some]
      have first : owner.AskedAt namespaceName (owner.path kind namespaceName) :=
        ⟨kind, known, rfl⟩
      simp only [List.takeWhile_cons, supported, if_true, List.exists_mem_cons_iff]
      simp only [visit, known] at asked
      split at asked
      case h_1 =>
        obtain rfl := List.mem_singleton.mp asked
        exact .inl first
      case h_2 =>
        rcases List.mem_cons.mp asked with rfl | later
        · exact .inl first
        · exact .inr (ih later)

end ParentLookup

namespace Workload

/-- The owners before the first that is no workload. -/
def leadingOwners (workload : Workload) : List Owner :=
  workload.owners.takeWhile Owner.isWorkload

variable {workload : Workload}

theorem images_parents_of_unsupported (cluster : Cluster)
    (unsupported : ∃ owner ∈ workload.owners, owner.workloadKind? = none) :
    (workload.parents cluster).images =
      workload.leadingOwners.mapM (Owner.look cluster workload.namespaceName) >>= fun _ =>
        .ok [] := by
  have some_other : ¬ workload.owners.all Owner.isWorkload = true := by
    obtain ⟨owner, member, unknown⟩ := unsupported
    intro all
    have supported := List.all_eq_true.mp all owner member
    rw [Owner.isWorkload, unknown] at supported
    contradiction
  rw [Workload.parents, ParentLookup.images_visit, leadingOwners]
  simp only [if_neg some_other]

/-- An owner that is no supported workload leaves no images, wherever it stands among the owners.
That is the outcome exactly if all looks at owners before it succeed, and otherwise the first look
that fails is. Owners after it are not looked up. -/
theorem unsupported_owner_disables (cluster : Cluster)
    (unsupported : ∃ owner ∈ workload.owners, owner.workloadKind? = none) :
    (∀ images, (workload.parents cluster).images = .ok images ↔
      images = [] ∧ ∀ owner ∈ workload.leadingOwners,
        ∃ found, owner.look cluster workload.namespaceName = .ok found) ∧
    (∀ denial, (workload.parents cluster).images = .error denial ↔
      ∃ before owner after, workload.leadingOwners = before ++ owner :: after ∧
        (∀ earlier ∈ before, ∃ found, earlier.look cluster workload.namespaceName = .ok found) ∧
        owner.look cluster workload.namespaceName = .error denial) ∧
    ∀ path ∈ (workload.parents cluster).paths,
      ∃ owner ∈ workload.leadingOwners, owner.AskedAt workload.namespaceName path := by
  refine ⟨?_, ?_, ?_⟩
  · intro images
    rw [images_parents_of_unsupported cluster unsupported, bind_eq_ok]
    constructor
    · rintro ⟨lists, looked, same⟩
      obtain rfl := Except.ok.inj same
      refine ⟨rfl, ?_⟩
      intro owner member
      obtain ⟨found, -, answered⟩ := exists_of_mem_left (mapM_eq_ok.mp looked) owner member
      exact ⟨found, answered⟩
    · rintro ⟨rfl, answered⟩
      obtain ⟨lists, looked⟩ := exists_mapM_ok answered
      exact ⟨lists, looked, rfl⟩
  · intro denial
    rw [images_parents_of_unsupported cluster unsupported, bind_eq_error, mapM_eq_error]
    simp
  · intro path asked
    exact ParentLookup.exists_of_mem_paths asked

section Sample

def replicaSet : Owner :=
  ⟨"apps/v1", "ReplicaSet", "web", "r1"⟩

/-- An owner of a kind that is not supported. -/
def rollout : Owner :=
  ⟨"argoproj.io/v1alpha1", "Rollout", "web", "o1"⟩

def samplePod (owners : List Owner) : Workload where
  kind := .pod
  apiVersion := "v1"
  namespaceName := "shop"
  name := "web-1"
  uid := none
  owners := owners
  spec := .object [("containers", .array [])]

/-- The spec of a workload with one container. -/
def webSpec : Json :=
  .object [("template", .object [("spec", .object [
    ("containers", .array [.object [("image", .string "web:v1")]])])])]

def replicaSetObject : Json :=
  .object [("apiVersion", .string "apps/v1"), ("kind", .string "ReplicaSet"),
    ("metadata", .object [("name", .string "web"), ("uid", .string "r1")]), ("spec", webSpec)]

def replicaSetPath : String := "apis/apps/v1/namespaces/shop/replicasets/web"

def holdingSet : Cluster := fun path =>
  if path = replicaSetPath then .ok replicaSetObject else .error "not found"

def unreachable : Cluster := fun _ => .error "unavailable"

theorem leadingOwners_samplePod :
    (samplePod [replicaSet, rollout]).leadingOwners = [replicaSet] := by
  decide

theorem rollout_unsupported :
    ∃ owner ∈ (samplePod [replicaSet, rollout]).owners, owner.workloadKind? = none :=
  ⟨rollout, List.mem_cons_of_mem _ List.mem_cons_self, by decide⟩

/-- What the replica set is read as. -/
def replicaSetWorkload : Workload where
  kind := .replicaSet
  apiVersion := "apps/v1"
  namespaceName := "shop"
  name := "web"
  uid := some "r1"
  owners := []
  spec := webSpec

def webImage : Reference :=
  ⟨"docker.io", "library", "web", some "v1", none⟩

theorem look_replicaSet : replicaSet.look holdingSet "shop" = .ok [webImage] := by
  have known : replicaSet.workloadKind? = some .replicaSet := by decide
  have path : replicaSet.path .replicaSet "shop" = replicaSetPath := by decide +kernel
  have read : ofJson replicaSetObject "shop" = .ok replicaSetWorkload := rfl
  have listed : replicaSetWorkload.containers = .ok [⟨.containers, 0, webImage⟩] := rfl
  rw [Owner.look_of_known known, Owner.images_eq_ok, path]
  exact ⟨_, _, _, if_pos rfl, read, rfl, listed, rfl⟩

theorem unsupported_owner_disables_of_samplePod :
    (∃ owner ∈ (samplePod [replicaSet, rollout]).owners, owner.workloadKind? = none) ∧
      replicaSet.look holdingSet "shop" = .ok [webImage] ∧
      ((samplePod [replicaSet, rollout]).parents holdingSet).images = .ok [] := by
  obtain ⟨silent, -, -⟩ := unsupported_owner_disables holdingSet rollout_unsupported
  refine ⟨rollout_unsupported, look_replicaSet, (silent []).mpr ⟨rfl, ?_⟩⟩
  intro owner leading
  rw [leadingOwners_samplePod, List.mem_singleton] at leading
  rw [leading]
  exact ⟨_, look_replicaSet⟩

/-- The order of the owners decides about the outcome where a look fails. -/
theorem failed_look_denies :
    (∃ owner ∈ (samplePod [replicaSet, rollout]).owners, owner.workloadKind? = none) ∧
      ((samplePod [replicaSet, rollout]).parents unreachable).images =
        .error (.lookup replicaSetPath "unavailable") ∧
      ((samplePod [rollout, replicaSet]).parents unreachable).images = .ok [] :=
  ⟨rollout_unsupported, rfl, rfl⟩

end Sample

end Workload

end SignedAdmission
