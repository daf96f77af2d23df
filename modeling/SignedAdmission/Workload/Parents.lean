import SignedAdmission.Workload.Object

/-! The images that the owners of a workload run. -/
namespace SignedAdmission

/-- Looks up objects by request path; a failure gives its cause. -/
abbrev Cluster := String → Except String Json

namespace Owner

/-- The kind of an owner that is itself a workload of a supported API version. -/
def workloadKind? (owner : Owner) : Option WorkloadKind :=
  (WorkloadKind.ofText? owner.kind).filter (·.supports owner.apiVersion)

/-- The core group has a root of its own, and the named groups share one. -/
def pathRoot (owner : Owner) : String :=
  if owner.apiVersion = "v1" then "api" else "apis"

def path (owner : Owner) (kind : WorkloadKind) (namespaceName : String) : String :=
  "/".intercalate
    [owner.pathRoot, owner.apiVersion, "namespaces", namespaceName, kind.plural, owner.name]

/-- The images of the owner, if the object found at its path is the owner. -/
def images (owner : Owner) (kind : WorkloadKind) (namespaceName : String) (cluster : Cluster) :
    Except Denial (List Reference) := do
  let path := owner.path kind namespaceName
  let object ← (cluster path).mapError fun cause => .lookup path cause
  let parent ← Workload.ofJson object namespaceName
  if parent.uid != some owner.uid then throw (.owner kind owner.name owner.uid)
  return (← parent.containers).map (·.image)

end Owner

/-- What comes of a look at the owners, with the paths that were asked for. -/
structure ParentLookup where
  images : Except Denial (List Reference)
  paths : List String

namespace ParentLookup

/-- Visits owners in order. One that is no supported workload ends the visit without images. -/
def visit (cluster : Cluster) (namespaceName : String) (found : List Reference) :
    List Owner → ParentLookup
  | [] => ⟨.ok found, []⟩
  | owner :: owners =>
    match owner.workloadKind? with
    | none => ⟨.ok [], []⟩
    | some kind =>
      let path := owner.path kind namespaceName
      match owner.images kind namespaceName cluster with
      | .error e => ⟨.error e, [path]⟩
      | .ok images =>
        let rest := visit cluster namespaceName (found ++ images) owners
        { rest with paths := path :: rest.paths }

end ParentLookup

def Workload.parents (workload : Workload) (cluster : Cluster) : ParentLookup :=
  .visit cluster workload.namespaceName [] workload.owners

end SignedAdmission
