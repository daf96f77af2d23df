import SignedAdmission.Admission.Patch
import SignedAdmission.Bytes.Base64
import SignedAdmission.Json.Printer

/-! Answers to admission reviews. -/
namespace SignedAdmission

structure ReviewResponse where
  uid : String
  allowed : Bool
  message : Option String
  warnings : Option (List String)
  patches : List Patch
deriving DecidableEq, Repr

namespace ReviewResponse

/-- The answer to a verdict. In detection mode a denial becomes an admission that carries the
message as a warning. -/
def ofVerdict (uid : String) (allowed : Bool) (patches : List Patch) (message : Option String)
    (detection : Bool) : ReviewResponse where
  uid := uid
  allowed := allowed || detection
  message := message
  warnings := if detection && !allowed then message.map ([·]) else none
  patches := patches

def code (response : ReviewResponse) : Nat :=
  if response.allowed then 202 else 403

/-- The JSON patch in base64, if there is anything to change. -/
def patchText? (response : ReviewResponse) : Option String :=
  if response.patches.isEmpty then none
  else
    let document : Json := .array (response.patches.map Patch.toJson)
    some (String.ofList (Base64.encode document.bytes))

/-- The review that carries the answer. -/
def toJson (response : ReviewResponse) : Json :=
  .object [
    ("apiVersion", .string "admission.k8s.io/v1"),
    ("kind", .string "AdmissionReview"),
    ("response", .ofFields [
      ("uid", some (.string response.uid)),
      ("allowed", some (.bool response.allowed)),
      ("status", some (.ofFields [
        ("code", some (.ofNat response.code)),
        ("message", response.message.map .string)])),
      ("warnings", response.warnings.map fun lines => .array (lines.map .string)),
      ("patchType", response.patchText?.map fun _ => .string "JSONPatch"),
      ("patch", response.patchText?.map .string)])]

end ReviewResponse

end SignedAdmission
