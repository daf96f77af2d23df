import SignedAdmission.Proofs.Text.Split
import SignedAdmission.Proofs.Workload.Owners

/-! The paths that owners are looked up at. The segments before the name of an owner stay in the
namespace of the workload; the name itself may hold segments of its own. -/
namespace SignedAdmission

open Checks Text

namespace WorkloadKind

/-- The segments before the names of objects. Named groups are served below another root than the
core group. -/
def collection (kind : WorkloadKind) (apiVersion namespaceName : String) : List (List Char) :=
  (if '/' ∈ apiVersion.toList then "apis" else "api").toList :: split '/' apiVersion.toList ++
    ["namespaces".toList, namespaceName.toList, kind.plural.toList]

variable {kind : WorkloadKind} {apiVersion : String}

theorem plural_plain (kind : WorkloadKind) :
    ∀ mark ∈ ['/', '?', '#'], mark ∉ kind.plural.toList := by
  rw [List.forall_mem_cons, List.forall_mem_cons, List.forall_mem_singleton]
  cases kind <;> decide +kernel

theorem plain_of_supports (supported : kind.supports apiVersion = true) :
    ∀ mark ∈ ['?', '#'], mark ∉ apiVersion.toList := by
  have listed : apiVersion ∈ kind.apiVersions := List.contains_iff_mem.mp supported
  have plain : ∀ version ∈ kind.apiVersions, '?' ∉ version.toList ∧ '#' ∉ version.toList := by
    cases kind <;> decide
  rw [List.forall_mem_cons, List.forall_mem_singleton]
  exact plain apiVersion listed

theorem root_of_supports (supported : kind.supports apiVersion = true) :
    (if apiVersion = "v1" then "api" else "apis") =
      if '/' ∈ apiVersion.toList then "apis" else "api" := by
  have listed : apiVersion ∈ kind.apiVersions := List.contains_iff_mem.mp supported
  have root : ∀ version ∈ kind.apiVersions, (if version = "v1" then "api" else "apis") =
      if '/' ∈ version.toList then "apis" else "api" := by
    cases kind <;> decide
  exact root apiVersion listed

end WorkloadKind

namespace Owner

/-- What the path of an owner is made of. Its segments are those of the owner's kind in the
namespace with the name as the last one exactly if the name has no `/`, and it has a query or a
fragment that is not the namespace's exactly if the name has a `?` or a `#`. -/
structure FoundBelow (owner : Owner) (kind : WorkloadKind) (namespaceName path : String) :
    Prop where
  named : owner.kind = kind.text
  supported : kind.supports owner.apiVersion = true
  segments : split '/' path.toList =
    kind.collection owner.apiVersion namespaceName ++ split '/' owner.name.toList
  confined : split '/' path.toList =
      kind.collection owner.apiVersion namespaceName ++ [owner.name.toList] ↔
    '/' ∉ owner.name.toList
  marks : ∀ mark ∈ ['?', '#'],
    mark ∈ path.toList ↔ mark ∈ namespaceName.toList ∨ mark ∈ owner.name.toList

variable {cluster : Cluster} {namespaceName : String} {owner : Owner} {kind : WorkloadKind}

theorem kind_of_known (known : owner.workloadKind? = some kind) :
    owner.kind = kind.text ∧ kind.supports owner.apiVersion = true := by
  obtain ⟨found, supported⟩ := Option.filter_eq_some_iff.mp known
  have named := List.find?_some found
  exact ⟨(beq_iff_eq.mp named).symm, supported⟩

theorem pathRoot_plain : ∀ mark ∈ ['?', '#'], mark ∉ owner.pathRoot.toList := by
  rw [List.forall_mem_cons, List.forall_mem_singleton, pathRoot]
  split <;> decide

theorem path_toList :
    (owner.path kind namespaceName).toList =
      join '/' [owner.pathRoot.toList, owner.apiVersion.toList, "namespaces".toList,
        namespaceName.toList, kind.plural.toList, owner.name.toList] := by
  rw [path, String.toList_intercalate]
  rfl

/-- The name of an owner is all that can add segments. -/
theorem split_path (known : owner.workloadKind? = some kind) (flat : '/' ∉ namespaceName.toList) :
    split '/' (owner.path kind namespaceName).toList =
      kind.collection owner.apiVersion namespaceName ++ split '/' owner.name.toList := by
  obtain ⟨-, supported⟩ := kind_of_known known
  have root : split '/' owner.pathRoot.toList =
      [(if '/' ∈ owner.apiVersion.toList then "apis" else "api").toList] := by
    rw [pathRoot, WorkloadKind.root_of_supports supported]
    split <;> decide
  have namespaces : split '/' "namespaces".toList = ["namespaces".toList] := by decide
  have plural : '/' ∉ kind.plural.toList := WorkloadKind.plural_plain kind '/' (by decide)
  -- The version and the name are the pieces that may hold the separator themselves.
  rw [path_toList, split_join_flatMap (List.cons_ne_nil _ _)]
  simp only [List.flatMap_cons, List.flatMap_nil, root, namespaces, split_of_not_mem flat,
    split_of_not_mem plural, WorkloadKind.collection]
  simp

/-- A query or a fragment can only come from the namespace or from the name. -/
theorem mem_path_iff (known : owner.workloadKind? = some kind) {mark : Char}
    (marks : mark ∈ ['?', '#']) :
    mark ∈ (owner.path kind namespaceName).toList ↔
      mark ∈ namespaceName.toList ∨ mark ∈ owner.name.toList := by
  obtain ⟨-, supported⟩ := kind_of_known known
  have version := WorkloadKind.plain_of_supports supported mark marks
  have plural := WorkloadKind.plural_plain kind mark (List.mem_cons_of_mem _ marks)
  have fixed : ∀ mark ∈ ['?', '#'], mark ≠ '/' ∧ mark ∉ "namespaces".toList := by
    rw [List.forall_mem_cons, List.forall_mem_singleton]
    decide
  obtain ⟨apart, namespaces⟩ := fixed mark marks
  have root : mark ∉ owner.pathRoot.toList := pathRoot_plain mark marks
  rw [path_toList]
  constructor
  · intro inside
    rcases mem_join inside with separator | ⟨piece, member, inside⟩
    · exact absurd separator apart
    · simp only [List.mem_cons, List.not_mem_nil, or_false] at member
      rcases member with rfl | rfl | rfl | rfl | rfl | rfl
      · exact absurd inside root
      · exact absurd inside version
      · exact absurd inside namespaces
      · exact .inl inside
      · exact absurd inside plural
      · exact .inr inside
  · rintro (inside | inside)
    · exact mem_join_of_mem (by simp) inside
    · exact mem_join_of_mem (by simp) inside

theorem foundBelow_path (known : owner.workloadKind? = some kind)
    (flat : '/' ∉ namespaceName.toList) :
    owner.FoundBelow kind namespaceName (owner.path kind namespaceName) where
  named := (kind_of_known known).1
  supported := (kind_of_known known).2
  segments := split_path known flat
  confined := by rw [split_path known flat, List.append_cancel_left_eq, split_eq_singleton_iff]
  marks := by
    intro mark marks
    exact mem_path_iff known marks

end Owner

namespace ParentLookup

variable {cluster : Cluster} {namespaceName : String} {owners : List Owner}
  {found images : List Reference}

theorem visit_singleton {owner : Owner} {kind : WorkloadKind} {path : String}
    (known : owner.workloadKind? = some kind) (asked : owner.path kind namespaceName = path)
    (looked : owner.images kind namespaceName cluster = .ok images) :
    visit cluster namespaceName [] [owner] = ⟨.ok images, [path]⟩ := by
  simp [visit, known, asked, looked]

/-- Images that a visit adds were found at a path that it asked for. -/
theorem exists_of_mem_images
    (visited : (visit cluster namespaceName found owners).images = .ok images) :
    ∀ image ∈ images, image ∈ found ∨ ∃ owner ∈ owners, ∃ kind, owner.workloadKind? = some kind ∧
      owner.path kind namespaceName ∈ (visit cluster namespaceName found owners).paths ∧
      ∃ own, owner.images kind namespaceName cluster = .ok own ∧ image ∈ own := by
  intro image member
  induction owners generalizing found with
  | nil =>
    obtain rfl : found = images := Except.ok.inj visited
    exact .inl member
  | cons owner owners ih =>
    cases known : owner.workloadKind? with
    | none =>
      simp only [visit, known] at visited
      obtain rfl := Except.ok.inj visited
      contradiction
    | some kind =>
      simp only [visit, known] at visited ⊢
      cases looked : owner.images kind namespaceName cluster with
      | error denial =>
        rw [looked] at visited
        contradiction
      | ok own =>
        rw [looked] at visited
        rcases ih visited with earlier | ⟨other, later, otherKind, rest⟩
        · rcases List.mem_append.mp earlier with before | here
          · exact .inl before
          · refine .inr ⟨owner, List.mem_cons_self, kind, known, ?_, own, looked, here⟩
            exact List.mem_cons_self
        · obtain ⟨otherKnown, asked, provided⟩ := rest
          refine .inr ⟨other, List.mem_cons_of_mem _ later, otherKind, otherKnown, ?_, provided⟩
          exact List.mem_cons_of_mem _ asked

end ParentLookup

namespace Workload

variable {workload : Workload}

/-- Where owners are looked up, and where their images come from. What answers at the path of an
owner is told by its identifier only, so that a name with a `/` can lead out of the namespace. -/
theorem lookups_confined_iff (cluster : Cluster) (flat : '/' ∉ workload.namespaceName.toList) :
    (∀ path ∈ (workload.parents cluster).paths, ∃ owner ∈ workload.owners, ∃ kind,
      owner.FoundBelow kind workload.namespaceName path) ∧
    ∀ images, (workload.parents cluster).images = .ok images → ∀ image ∈ images,
      ∃ owner ∈ workload.owners, ∃ kind, ∃ path ∈ (workload.parents cluster).paths,
        owner.FoundBelow kind workload.namespaceName path ∧
        ∃ object parent containers, cluster path = .ok object ∧
          ofJson object workload.namespaceName = .ok parent ∧ parent.uid = some owner.uid ∧
          parent.containers = .ok containers ∧ image ∈ containers.map Container.image := by
  refine ⟨?_, ?_⟩
  · intro path asked
    obtain ⟨owner, leading, kind, known, rfl⟩ := ParentLookup.exists_of_mem_paths asked
    have member : owner ∈ workload.owners := (List.takeWhile_sublist _).subset leading
    exact ⟨owner, member, kind, Owner.foundBelow_path known flat⟩
  · intro images visited image member
    rcases ParentLookup.exists_of_mem_images visited image member with
      nowhere | ⟨owner, listed, kind, known, asked, own, looked, provided⟩
    · contradiction
    · obtain ⟨object, parent, containers, answered, read, same, found, rfl⟩ :=
        Owner.images_eq_ok.mp looked
      exact ⟨owner, listed, kind, _, asked, Owner.foundBelow_path known flat, object, parent,
        containers, answered, read, same, found, provided⟩

section Sample

theorem parents_replicaSet :
    (samplePod [replicaSet]).parents holdingSet = ⟨.ok [webImage], [replicaSetPath]⟩ := by
  have known : replicaSet.workloadKind? = some .replicaSet := by decide
  have path : replicaSet.path .replicaSet "shop" = replicaSetPath := by decide +kernel
  have looked : replicaSet.images .replicaSet "shop" holdingSet = .ok [webImage] := by
    rw [← Owner.look_of_known known, look_replicaSet]
  exact ParentLookup.visit_singleton known path looked

theorem lookups_confined_of_replicaSet :
    '/' ∉ (samplePod [replicaSet]).namespaceName.toList ∧
      replicaSetPath ∈ ((samplePod [replicaSet]).parents holdingSet).paths ∧
      split '/' replicaSetPath.toList =
        WorkloadKind.replicaSet.collection "apps/v1" "shop" ++ ["web".toList] ∧
      ∃ object, holdingSet replicaSetPath = .ok object := by
  have flat : '/' ∉ (samplePod [replicaSet]).namespaceName.toList := by decide
  have asked : replicaSetPath ∈ ((samplePod [replicaSet]).parents holdingSet).paths := by
    rw [parents_replicaSet]
    exact List.mem_singleton_self replicaSetPath
  obtain ⟨confined, provided⟩ := lookups_confined_iff holdingSet flat
  refine ⟨flat, asked, ?_, ?_⟩
  · obtain ⟨owner, member, kind, below⟩ := confined replicaSetPath asked
    obtain rfl := List.mem_singleton.mp member
    obtain rfl : kind = .replicaSet := by
      have named := below.named
      revert named
      cases kind <;> decide
    exact below.confined.mpr (by decide)
  · obtain ⟨owner, -, kind, path, looked, -, object, -, -, answered, -⟩ :=
      provided [webImage] (by rw [parents_replicaSet]) webImage (List.mem_singleton_self webImage)
    rw [parents_replicaSet] at looked
    obtain rfl := List.mem_singleton.mp looked
    exact ⟨object, answered⟩

/-- An owner whose name leads to another namespace. -/
def climbing : Owner :=
  ⟨"apps/v1", "Deployment", "../../vault/deployments/web", "d1"⟩

def climbingPath : String :=
  "apis/apps/v1/namespaces/shop/deployments/../../vault/deployments/web"

def vaultObject : Json :=
  .object [("apiVersion", .string "apps/v1"), ("kind", .string "Deployment"),
    ("metadata", .object [("name", .string "web"), ("namespace", .string "vault"),
      ("uid", .string "d1")]),
    ("spec", webSpec)]

def vaultWorkload : Workload where
  kind := .deployment
  apiVersion := "apps/v1"
  namespaceName := "shop"
  name := "web"
  uid := some "d1"
  owners := []
  spec := webSpec

def holdingVault : Cluster := fun path =>
  if path = climbingPath then .ok vaultObject else .error "not found"

theorem parents_climbing :
    (samplePod [climbing]).parents holdingVault = ⟨.ok [webImage], [climbingPath]⟩ := by
  have known : climbing.workloadKind? = some .deployment := by decide
  have path : climbing.path .deployment "shop" = climbingPath := by decide +kernel
  have read : ofJson vaultObject "shop" = .ok vaultWorkload := rfl
  have listed : vaultWorkload.containers = .ok [⟨.containers, 0, webImage⟩] := rfl
  have looked : climbing.images .deployment "shop" holdingVault = .ok [webImage] := by
    rw [Owner.images_eq_ok, path]
    exact ⟨_, _, _, if_pos rfl, read, rfl, listed, rfl⟩
  exact ParentLookup.visit_singleton known path looked

/-- An owner's name can leave the namespace, and what is found there is taken for the owner. -/
theorem lookup_leaves_namespace :
    '/' ∉ (samplePod [climbing]).namespaceName.toList ∧
      climbingPath ∈ ((samplePod [climbing]).parents holdingVault).paths ∧
      split '/' climbingPath.toList ≠
        WorkloadKind.deployment.collection "apps/v1" "shop" ++ [climbing.name.toList] ∧
      ((samplePod [climbing]).parents holdingVault).images = .ok [webImage] := by
  rw [parents_climbing]
  refine ⟨by decide, List.mem_singleton_self climbingPath, ?_, rfl⟩
  decide +kernel

end Sample

end Workload

end SignedAdmission
