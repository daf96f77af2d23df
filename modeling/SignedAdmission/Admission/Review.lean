import SignedAdmission.Admission.Controller

/-! Answers to reviews as they come from the API server. -/
namespace SignedAdmission

inductive LogLine where
  | warning (text : String)
  | error (text : String)
deriving DecidableEq, Repr

/-- An answer with what was looked up and logged on the way. -/
structure Logged (α : Type) where
  value : α
  lookups : List String
  log : List LogLine

namespace Controller

/-- The verdict on a review that is JSON. An admission that never ends is cut off. -/
def verdict (controller : Controller) (review : Json) : Logged (Except Denial (List Patch)) :=
  match ReviewRequest.ofReview review with
  | .error denial => ⟨.error denial, [], [.error (denial.report none)]⟩
  | .ok request =>
    let admission := controller.admission request
    let outcome := admission.outcome.getD (.error .deadline)
    let failure :=
      match outcome with
      | .error denial => [.error (denial.report (some request.context))]
      | .ok _ => []
    ⟨outcome, admission.lookups, admission.warnings.map .warning ++ failure⟩

def reviewUid (review : Json) : String :=
  ((review.pointer? "/request/uid").bind Json.string?).getD ""

def respond (controller : Controller) (uid : String) :
    Except Denial (List Patch) → ReviewResponse
  | .ok patches => .ofVerdict uid true patches none controller.settings.detection
  | .error denial => .ofVerdict uid false [] (some denial.message) controller.settings.detection

/-- Answers a review. Only what is not read as JSON gets no answer. -/
def review (controller : Controller) (body : List UInt8) : Except Denial (Logged ReviewResponse) :=
  match Json.ofBytes? body with
  | none => .error (.request .notJson)
  | some review =>
    let verdict := controller.verdict review
    .ok { verdict with value := controller.respond (reviewUid review) verdict.value }

def ready (controller : Controller) : Logged Bool :=
  ⟨controller.validators.allHealthy, [], controller.validators.healthWarnings.map .warning⟩

end Controller

end SignedAdmission
