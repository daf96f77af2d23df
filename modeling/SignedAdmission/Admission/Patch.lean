import SignedAdmission.Json.Pointer
import SignedAdmission.Workload.Object

/-! Patches that pin the images of a workload to digests. -/
namespace SignedAdmission

/-- One operation of a JSON patch on a text. -/
structure Patch where
  operation : String
  /-- The pointer to what the operation is about. -/
  path : String
  value : String
deriving DecidableEq, Repr

namespace Patch

def replace (path : List String) (value : String) : Patch where
  operation := "replace"
  path := Json.pointerText path
  value := value

def toJson (patch : Patch) : Json :=
  .object [("op", .string patch.operation), ("path", .string patch.path),
    ("value", .string patch.value)]

open Json in
def decode (value : Json) : Except ShapeError Patch := do
  let operation : RecordField String := { name := "op", decode := Decoder.string }
  let path : RecordField String := { name := "path", decode := Decoder.string }
  let text : RecordField String := { name := "value", decode := Decoder.string }
  let slots ← Record.slots "JsonPatch" [operation.rule, path.rule, text.rule] value
  return {
    operation := ← operation.get slots
    path := ← path.get slots
    value := ← text.get slots }

end Patch

/-- The way from a workload's object to the image of a container. -/
def Container.path (container : Container) (kind : WorkloadKind) : List String :=
  ["spec"] ++ kind.podSpecPath ++ [container.group.text, toString container.index, "image"]

/-- The patch that gives a container another image. -/
def Workload.patch (workload : Workload) (container : Container) (image : Reference) : Patch :=
  .replace (container.path workload.kind) image.canonical

end SignedAdmission
