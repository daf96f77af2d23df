import SignedAdmission.Admission.Review

/-! The HTTP face of the controller: reviews, health and readiness. -/
namespace SignedAdmission

structure HttpAnswer where
  status : Nat
  contentType : Option String
  body : List UInt8
deriving DecidableEq, Repr

namespace HttpAnswer

def plain (status : Nat) (text : String) : HttpAnswer :=
  ⟨status, none, text.toUTF8.toList⟩

def empty (status : Nat) : HttpAnswer :=
  plain status ""

end HttpAnswer

namespace Controller

def mutatePath : String := "/mutate"
def healthPath : String := "/health"
def readyPath : String := "/ready"

/-- The path of a request target, without query and fragment. -/
def pathOf (target : String) : String :=
  String.ofList (target.toList.takeWhile fun c => c != '?' && c != '#')

def answerReview (controller : Controller) (body : List UInt8) : Logged HttpAnswer :=
  match controller.review body with
  | .ok response =>
    { response with value := ⟨200, some "application/json", response.value.toJson.bytes⟩ }
  | .error denial =>
    ⟨.plain 400 denial.message, [], [.warning ("rejected admission request: " ++ denial.message)]⟩

def answer (controller : Controller) (method target : String) (body : List UInt8) :
    Logged HttpAnswer :=
  let path := pathOf target
  let silent (answer : HttpAnswer) : Logged HttpAnswer := ⟨answer, [], []⟩
  if path = mutatePath ∧ method = "POST" then controller.answerReview body
  else if path = healthPath ∧ method = "GET" then silent (.empty 200)
  else if path = readyPath ∧ method = "GET" then
    let ready := controller.ready
    { ready with value := .empty (if ready.value then 200 else 503) }
  else if path = mutatePath ∨ path = healthPath ∨ path = readyPath then
    silent (.plain 405 "Method Not Allowed")
  else silent (.plain 404 "URL NOT FOUND")

end Controller

end SignedAdmission
