import SignedAdmission.Admission.Denial
import SignedAdmission.Json.Pointer
import SignedAdmission.Reference.Parse

/-! Workload objects and the containers of their pod specs. -/
namespace SignedAdmission

open Json

/-- A reference to the object that a workload belongs to. -/
structure Owner where
  apiVersion : String
  kind : String
  name : String
  uid : String
deriving DecidableEq, Repr

def Owner.decode (value : Json) : Except ShapeError Owner := do
  let apiVersion : RecordField String := { name := "apiVersion", decode := Decoder.string }
  let kind : RecordField String := { name := "kind", decode := Decoder.string }
  let name : RecordField String := { name := "name", decode := Decoder.string }
  let uid : RecordField String := { name := "uid", decode := Decoder.string }
  let slots ← Record.slots "OwnerReference"
    [apiVersion.rule, kind.rule, name.rule, uid.rule] value
  return {
    apiVersion := ← apiVersion.get slots
    kind := ← kind.get slots
    name := ← name.get slots
    uid := ← uid.get slots }

structure Metadata where
  name : Option String
  generateName : Option String
  uid : Option String
  owners : List Owner
deriving DecidableEq, Repr

namespace Metadata

def empty : Metadata := ⟨none, none, none, []⟩

def decode (value : Json) : Except ShapeError Metadata := do
  let text (name : String) : RecordField (Option String) :=
    { name := name, decode := Decoder.optional Decoder.string, absence := .inObjects none }
  let owners : RecordField (List Owner) :=
    { name := "ownerReferences", decode := Decoder.list Owner.decode, absence := .anywhere [] }
  let slots ← Record.slots "Metadata"
    [(text "name").rule, (text "generateName").rule, (text "uid").rule, owners.rule] value
  return {
    name := ← (text "name").get slots
    generateName := ← (text "generateName").get slots
    uid := ← (text "uid").get slots
    owners := ← owners.get slots }

/-- The name, or what the server will make a name from. -/
def shownName (metadata : Metadata) : String :=
  (metadata.name.or metadata.generateName).getD ""

end Metadata

/-- One container image with its place in the pod spec. -/
structure Container where
  group : ContainerGroup
  index : Nat
  image : Reference
deriving DecidableEq, Repr

structure Workload where
  kind : WorkloadKind
  apiVersion : String
  /-- The namespace of the request that is about the workload. -/
  namespaceName : String
  name : String
  uid : Option String
  owners : List Owner
  spec : Json

namespace Workload

/-- Reads an object of a kind and API version that can be admitted. -/
def ofJson (value : Json) (namespaceName : String) : Except Denial Workload := do
  let kind : RecordField String := { name := "kind", decode := Decoder.string }
  let apiVersion : RecordField String := { name := "apiVersion", decode := Decoder.string }
  let metadata : RecordField Metadata :=
    { name := "metadata", decode := Metadata.decode, absence := .anywhere .empty }
  let spec : RecordField Json :=
    { name := "spec", decode := Decoder.any, absence := .anywhere .null }
  let fields : Except ShapeError (String × String × Metadata × Json) := do
    let slots ← Record.slots "RawObject"
      [kind.rule, apiVersion.rule, metadata.rule, spec.rule] value
    return (← kind.get slots, ← apiVersion.get slots, ← metadata.get slots, ← spec.get slots)
  let (kind, apiVersion, metadata, spec) ← fields.mapError fun e => .request (.workload e)
  match WorkloadKind.ofText? kind with
  | none => throw (.kind kind)
  | some kind =>
    let name := metadata.shownName
    if !kind.supports apiVersion then throw (.apiVersion apiVersion kind name)
    return {
      kind := kind
      apiVersion := apiVersion
      namespaceName := namespaceName
      name := name
      uid := metadata.uid
      owners := metadata.owners
      spec := spec }

/-- The container that one entry of a list describes. -/
def containerOf (group : ContainerGroup) (entry : Json) (index : Nat) :
    Except Denial Container :=
  match (entry.field? "image").bind Json.string? with
  | none => .error (.request (.image group index))
  | some text => do
    let image ← (Reference.parse text).mapError .trust
    return { group := group, index := index, image := image }

/-- The containers of one list; what is not a list has none. -/
def groupContainers (podSpec : Json) (group : ContainerGroup) : Except Denial (List Container) :=
  match (podSpec.field? group.text).bind Json.array? with
  | none => .ok []
  | some entries => entries.zipIdx.mapM fun (entry, index) => containerOf group entry index

/-- All containers in the order of the lists and of the entries in each. -/
def containers (workload : Workload) : Except Denial (List Container) :=
  match workload.spec.at? workload.kind.podSpecPath with
  | none => .error (.request (.podSpec workload.kind workload.name))
  | some podSpec => do
    return (← ContainerGroup.all.mapM (groupContainers podSpec)).flatten

end Workload

end SignedAdmission
