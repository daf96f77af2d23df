import SignedAdmission.Admission.Http
import SignedAdmission.Settings.Server
import SignedAdmission.Settings.Validation

/-! The command: reads the settings and the configuration of the validators, and answers the reviews
of its input, one a line. It has no network, so that no notary and no cluster can be reached. -/
namespace SignedAdmission.Command

structure Options where
  config : Option String
  /-- The seconds since 1970 at which trust data must be valid. -/
  now : Nat

def usage : String :=
  "usage: signed-admission [--config FILE] --now SECONDS"

def options? (config : Option String) (now : Option Nat) : List String → Option Options
  | [] => now.map fun now => ⟨config, now⟩
  | "-c" :: file :: rest => options? (some file) now rest
  | "--config" :: file :: rest => options? (some file) now rest
  | "--now" :: seconds :: rest => do options? config (some (← seconds.toNat?)) rest
  | _ => none

/-- The variables that hold settings. -/
def variableNames : List String :=
  (ServerSettings.standard.map (·.1) ++ ["kube_api_url"]).map fun name =>
    (ServerSettings.variableStart ++ name).map Char.toUpper

def assignments : IO (List (String × String)) := do
  let found ← variableNames.mapM fun name => do return (← IO.getEnv name).map (name, ·)
  return found.filterMap id

def contents? (path : String) : IO (Option String) := do
  try return some (← IO.FS.readFile path)
  catch _ => return none

def file (path : String) : IO SettingsFile := do
  match ← contents? path with
  | some text => return .found path text.toList
  | none => return .missing path

def fail (message : String) : IO UInt32 := do
  IO.eprintln message
  return 1

def logText : LogLine → String
  | .warning text => "WARN " ++ text
  | .error text => "ERROR " ++ text

def answer (controller : Controller) (line : String) : IO Unit := do
  let answer := controller.answer "POST" Controller.mutatePath line.toUTF8.toList
  for entry in answer.log do IO.eprintln (logText entry)
  IO.println ((String.fromUTF8? answer.value.body.toByteArray).getD "")

def controllerOf (options : Options) (settings : ServerSettings) (text : String) :
    Except String Controller := do
  let configured ← (ValidationSettings.ofText text.toList).mapError ValidationFault.message
  let env : Environment :=
    { suite := .standard, now := .ofSeconds options.now, strict := false, server := .unreachable }
  let (validators, policy) ← (configured.build env).mapError TrustError.message
  return {
    policy := policy
    validators := validators
    cluster := fun _ => .error "no cluster"
    settings := settings.controller }

def run (options : Options) : IO UInt32 := do
  let path := options.config.or (← IO.getEnv "TRUST_WEBHOOK_CONFIG")
  let file ← path.mapM file
  match ServerSettings.load file (← assignments) with
  | .error fault => fail fault.message
  | .ok settings =>
    match ← contents? settings.validationConfig with
    | none => fail ("read validation config " ++ settings.validationConfig)
    | some text =>
      match controllerOf options settings text with
      | .error message => fail message
      | .ok controller =>
        let input ← (← IO.getStdin).readToEnd
        for line in Text.split '\n' input.toList do
          if !line.isEmpty then answer controller (String.ofList line)
        return 0

end SignedAdmission.Command

def main (args : List String) : IO UInt32 :=
  match SignedAdmission.Command.options? none none args with
  | some options => SignedAdmission.Command.run options
  | none => SignedAdmission.Command.fail SignedAdmission.Command.usage
