import SignedAdmission.Admission.Request
import SignedAdmission.Admission.Response
import SignedAdmission.Json.Reader
import SignedAdmission.Policy.Selection
import SignedAdmission.Validator.Basic
import SignedAdmission.Workload.Parents

/-! The controller admits a workload if every image of it is trusted, and pins the images whose
digest is known. -/
namespace SignedAdmission

structure ControllerSettings where
  /-- Denied workloads are admitted with a warning. -/
  detection : Bool
  /-- Images that an owner runs are admitted. -/
  childApproval : Bool
  /-- Images that an update leaves as they were are admitted. -/
  unchangedApproval : Bool
deriving DecidableEq, Repr

def ControllerSettings.standard : ControllerSettings := ⟨false, true, false⟩

structure Controller where
  policy : Policy
  validators : Validators
  cluster : Cluster
  settings : ControllerSettings

/-- What comes of the look at one container. -/
inductive Finding where
  /-- The image needs no verification. -/
  | approved
  /-- No validator can be chosen for the image. -/
  | undecided (error : TrustError)
  | checked (verification : Verification)

/-- What comes of a request to admit a workload. -/
structure Admission where
  /-- There is none if a verification never ends. -/
  outcome : Option (Except Denial (List Patch))
  /-- The steps that ended, in that order. -/
  steps : List String
  /-- The paths asked for at the cluster. -/
  lookups : List String
  warnings : List String

namespace Controller

def validatorFor (controller : Controller) (image : Reference) :
    Except TrustError (Rule × Validator) := do
  let found ← controller.policy.select image
  return (found.rule, ← controller.validators.named found.rule.validatorName)

/-- Images of owners were verified with them, and in their pinned form other rules may match. -/
def finding (controller : Controller) (parents previous : List Reference) (image : Reference) :
    Finding :=
  if parents.contains image || previous.contains image then .approved
  else
    match controller.validatorFor image with
    | .error e => .undecided e
    | .ok (rule, validator) => .checked (validator.verify image rule.arguments)

/-- The images of owners, if the settings and the owners ask for a look at them. -/
def parentLookup? (controller : Controller) (object : Workload) : Option ParentLookup :=
  if controller.settings.childApproval && !object.owners.isEmpty
  then some (object.parents controller.cluster) else none

/-- The images of the replaced version, if the settings want them. -/
def previousImages (controller : Controller) (request : ReviewRequest) :
    Except Denial (List Reference) :=
  match controller.settings.unchangedApproval, request.operation, request.oldObject with
  | true, .update, some old => do return (← old.containers).map (·.image)
  | _, _, _ => .ok []

end Controller

namespace Finding

def outcome : Finding → Option (Except TrustError (Option String))
  | approved => some (.ok none)
  | undecided e => some (.error e)
  | checked verification => verification.outcome

def warnings : Finding → List String
  | checked verification => verification.warnings
  | _ => []

/-- Whether there is a verification that ends, and does so with or without a wait. -/
def endsAfterWait (wait : Bool) : Finding → Bool
  | checked verification => verification.outcome.isSome && verification.atOnce != wait
  | _ => false

end Finding

namespace ReviewRequest

/-- What a finding means for the request: a patch, none, or a denial. -/
def patch? (request : ReviewRequest) (container : Container) :
    Except TrustError (Option String) → Except Denial (Option Patch)
  | .ok digest =>
    .ok (digest.map fun digest =>
      request.object.patch container (container.image.setDigest digest))
  | .error e => .error (.image (request.context ++ " image=" ++ container.image.canonical) e)

/-- The patches of all containers, or the denial for the first that is refused. -/
def patches (request : ReviewRequest)
    (outcomes : List (Container × Except TrustError (Option String))) :
    Except Denial (List Patch) := do
  let found ← outcomes.mapM fun (container, outcome) => request.patch? container outcome
  return found.filterMap id

end ReviewRequest

namespace Container

def label (container : Container) : String :=
  container.group.text ++ "[" ++ toString container.index ++ "] " ++ container.image.canonical

end Container

namespace Controller

def parentStep : String := "parent lookup"

/-- Verifications run side by side: those that end at once come first. -/
def endedSteps (findings : List (Container × Finding)) : List String :=
  let ended (wait : Bool) :=
    (findings.filter fun (_, finding) => finding.endsAfterWait wait).map (·.1.label)
  ended false ++ ended true

/-- The admission of a request whose containers and parent images are known. -/
def conclude (controller : Controller) (request : ReviewRequest) (containers : List Container)
    (parents previous : List Reference) : Admission :=
  let findings := containers.map fun container =>
    (container, controller.finding parents previous container.image)
  let outcomes := findings.mapM fun (container, finding) => finding.outcome.map (container, ·)
  { outcome := outcomes.map request.patches
    steps := endedSteps findings
    lookups := []
    warnings := findings.flatMap fun (_, finding) => finding.warnings }

def refusal (denial : Denial) : Admission :=
  { outcome := some (.error denial), steps := [], lookups := [], warnings := [] }

def admitWithParents (controller : Controller) (request : ReviewRequest)
    (containers : List Container) (parents : List Reference) : Admission :=
  match controller.previousImages request with
  | .error denial => refusal denial
  | .ok previous => controller.conclude request containers parents previous

/-- Admits or denies a request. -/
def admission (controller : Controller) (request : ReviewRequest) : Admission :=
  match request.object.containers with
  | .error denial => refusal denial
  | .ok containers =>
    match controller.parentLookup? request.object with
    | none => controller.admitWithParents request containers []
    | some lookup =>
      let admission :=
        match lookup.images with
        | .error denial => refusal denial
        | .ok parents => controller.admitWithParents request containers parents
      { admission with steps := parentStep :: admission.steps, lookups := lookup.paths }

end Controller

end SignedAdmission
