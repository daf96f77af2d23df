import SignedAdmission.Validator.Notary

/-! Configured validators. -/
namespace SignedAdmission

inductive ValidatorKind where
  | notary
  | static
deriving DecidableEq, Repr

def ValidatorKind.ofText? : String → Option ValidatorKind
  | "notaryv1" => some .notary
  | "static" => some .static
  | _ => none

/-- One configured validator. What is not its name or type belongs to its kind. -/
structure ValidatorSettings where
  name : String
  type : String
  settings : Json.Fields

namespace ValidatorSettings

open Json

def decode (value : Json) : Except ShapeError ValidatorSettings :=
  match value with
  | .object fields => do
    let name : RecordField String := { name := "name", decode := Decoder.string }
    let type : RecordField String := { name := "type", decode := Decoder.string }
    let slots ← Record.visit [name.rule, type.rule] fields []
    return {
      name := ← name.get slots
      type := ← type.get slots
      settings := fields.filter fun (key, _) => key != "name" && key != "type" }
  | other => .error (.wrongType other (.record "ValidatorConfig"))

def decodeApproval (value : Json) : Except ShapeError Bool := do
  let approve : RecordField Bool := { name := "approve", decode := Decoder.boolean }
  approve.get (← Record.slots "StaticConfig" [approve.rule] value)

/-- The validator that settings describe. -/
def build (env : Environment) (s : ValidatorSettings) : Except TrustError Validator := do
  let badSettings (e : ShapeError) : TrustError := .format (.validatorSettings s.name e)
  match ValidatorKind.ofText? s.type with
  | none => throw (.validatorType s.type)
  | some .notary =>
    let settings ← (NotarySettings.decode (.object s.settings)).mapError badSettings
    return (← Notary.ofSettings s.name settings).validator env
  | some .static =>
    let approve ← (decodeApproval (.object s.settings)).mapError badSettings
    return .static s.name approve

end ValidatorSettings

end SignedAdmission
