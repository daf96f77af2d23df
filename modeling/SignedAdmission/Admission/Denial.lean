import SignedAdmission.Error
import SignedAdmission.Workload.Kind

/-! Why a request is not admitted. -/
namespace SignedAdmission

/-- What is wrong with a request itself. -/
inductive RequestFault where
  | notJson
  | review (error : Json.ShapeError)
  | workload (error : Json.ShapeError)
  | operation (text : String)
  | podSpec (kind : WorkloadKind) (name : String)
  | image (group : ContainerGroup) (index : Nat)

inductive Denial where
  | request (fault : RequestFault)
  | kind (text : String)
  | apiVersion (version : String) (kind : WorkloadKind) (name : String)
  /-- The object found in place of an owner is another one. -/
  | owner (kind : WorkloadKind) (name uid : String)
  | lookup (path cause : String)
  | deadline
  /-- An image is refused before it is matched with a rule. -/
  | trust (error : TrustError)
  /-- The image that `context` names is not trusted. -/
  | image (context : String) (error : TrustError)

def RequestFault.detail : RequestFault → String
  | notJson => "undecodable body: <json>"
  | review error => error.message
  | workload error => "workload object: " ++ error.message
  | operation text => "unknown operation " ++ text
  | podSpec kind name => kind.text ++ " " ++ name ++ " has no pod spec"
  | image group index => group.text ++ "[" ++ toString index ++ "] has no image"

namespace Denial

/-- What the requester is told. -/
def message : Denial → String
  | request fault => "invalid admission request: " ++ fault.detail
  | kind text => text ++ " is not a supported kind"
  | apiVersion version workload name =>
    version ++ " is not in the supported API version list for " ++ workload.text ++ " " ++ name
  | owner workload name _ =>
    "couldn't find the right parent resource " ++ workload.plural ++ " " ++ name
  | lookup path _ => "request to the kubernetes API at " ++ path ++ " failed"
  | deadline => "deadline exceeded"
  | trust error => error.message
  | image _ error => error.message

/-- What the log says of a denial of the request that `context` describes. The cause of a failed
exchange with a server closes the line, and a mark stands for it. -/
def report (denial : Denial) (context : Option String) : String :=
  let request :=
    match context with
    | some text => " (" ++ text ++ ")"
    | none => ""
  match denial with
  | trust (.http _) | image _ (.http _) => denial.message ++ " <cause>"
  | image about _ => denial.message ++ " [" ++ about ++ "]" ++ request
  | lookup _ cause => denial.message ++ ": " ++ cause ++ request
  | _ => denial.message ++ request

end Denial

end SignedAdmission
