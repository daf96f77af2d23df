import SignedAdmission.Error
import SignedAdmission.Reference.Basic

/-! Validators say whether an image is trusted, and for which digest. -/
namespace SignedAdmission

/-- What comes of one verification. -/
structure Verification where
  /-- A digest pins the image, and an image without one is admitted as it is. There is no outcome
  if the verification never ends. -/
  outcome : Option (Except TrustError (Option String))
  warnings : List String
  /-- Whether the outcome is there without waiting for a server. -/
  atOnce : Bool

namespace Verification

def finished (outcome : Except TrustError (Option String)) : Verification :=
  { outcome := some outcome, warnings := [], atOnce := true }

def endless : Verification :=
  { outcome := none, warnings := [], atOnce := false }

end Verification

structure Validator where
  name : String
  /-- Takes the image and the arguments of the rule that applies to it. -/
  verify : Reference → Json.Fields → Verification
  healthy : Bool

namespace Validator

/-- Admits or denies every image without a look at it. -/
def static (name : String) (approve : Bool) : Validator where
  name := name
  verify _ _ := .finished (if approve then .ok none else .error (.rejected .denied))
  healthy := true

end Validator

/-- Validators with different names, in the order of the names. -/
structure Validators where
  entries : List Validator

namespace Validators

/-- The first name that comes a second time. -/
def repeatedName? (seen : List String) : List Validator → Option String
  | [] => none
  | v :: vs => if seen.contains v.name then some v.name else repeatedName? (v.name :: seen) vs

def ofList (validators : List Validator) : Except TrustError Validators :=
  match repeatedName? [] validators with
  | some name => .error (.format (.validatorName name))
  | none => .ok ⟨validators.mergeSort fun a b => decide (a.name ≤ b.name)⟩

def names (validators : Validators) : List String :=
  validators.entries.map (·.name)

/-- The validator of a name. -/
def named (validators : Validators) (name : String) : Except TrustError Validator :=
  match validators.entries.find? (·.name == name) with
  | some v => .ok v
  | none => .error (.missing (.validator name))

def unhealthy (validators : Validators) : List String :=
  (validators.entries.filter (!·.healthy)).map (·.name)

def allHealthy (validators : Validators) : Bool :=
  validators.unhealthy.isEmpty

/-- The warnings of a health check, one for each validator that is not healthy. -/
def healthWarnings (validators : Validators) : List String :=
  validators.unhealthy.map fun name => "validator " ++ name ++ " is not healthy"

end Validators

end SignedAdmission
