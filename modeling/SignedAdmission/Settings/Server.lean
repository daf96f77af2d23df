import SignedAdmission.Admission.Controller
import SignedAdmission.Settings.Format
import SignedAdmission.Text.Split

/-! The settings of the server: standard values, those of a file, and those of the environment.
Later ones win. -/
namespace SignedAdmission

structure ServerSettings where
  /-- The address to listen on. -/
  bind : String
  /-- The path of the configuration of validators and rules. -/
  validationConfig : String
  detection : Bool
  childApproval : Bool
  unchangedApproval : Bool
  timeoutSeconds : Nat
  /-- The API server, the one of the cluster if none is given. -/
  kubeApiUrl : Option String
deriving DecidableEq, Repr

/-- Why settings are refused. -/
inductive SettingsFault where
  | noFile (path : String)
  | malformed
deriving DecidableEq, Repr

def SettingsFault.message : SettingsFault → String
  | noFile path => "Config file " ++ path ++ " not found."
  | malformed => "<config>"

/-- A settings file. -/
inductive SettingsFile where
  | found (name : String) (text : List Char)
  | missing (path : String)

namespace ServerSettings

def standard : SettingTable :=
  [("bind", .text "0.0.0.0:5000"),
    ("validation_config", .text "/etc/trust-webhook/validation.yaml"),
    ("detection_mode", .boolean false), ("automatic_child_approval", .boolean true),
    ("automatic_unchanged_approval", .boolean false), ("request_timeout_seconds", .integer 29)]

/-- Variables with this start hold settings. -/
def variableStart : String := "trust_webhook_"

/-- The settings of the environment, whose names may be in any case. -/
def ofVariables (assignments : List (String × String)) : SettingTable :=
  assignments.filterMap fun (name, value) =>
    (Text.dropStart? variableStart.toList (Text.lowercase name.toList)).map fun rest =>
      (String.ofList rest, .ofUntyped value)

def ofTable? (table : SettingTable) : Option ServerSettings := do
  return {
    bind := ← (← table.lookup "bind").text?
    validationConfig := ← (← table.lookup "validation_config").text?
    detection := ← (← table.lookup "detection_mode").boolean?
    childApproval := ← (← table.lookup "automatic_child_approval").boolean?
    unchangedApproval := ← (← table.lookup "automatic_unchanged_approval").boolean?
    timeoutSeconds := ← (← table.lookup "request_timeout_seconds").unsigned?
    kubeApiUrl := ←
      match (table.lookup "kube_api_url").getD .absent with
      | .absent => some none
      | value => some <$> value.text? }

def load (file : Option SettingsFile) (assignments : List (String × String)) :
    Except SettingsFault ServerSettings := do
  let entries ←
    match file with
    | none => pure []
    | some (.missing path) => throw (.noFile path)
    | some (.found name text) =>
      match SettingTable.ofFile? name text with
      | some entries => pure entries
      | none => throw .malformed
  match ofTable? ((standard.setAll entries).setAll (ofVariables assignments)) with
  | some settings => return settings
  | none => throw .malformed

def controller (settings : ServerSettings) : ControllerSettings where
  detection := settings.detection
  childApproval := settings.childApproval
  unchangedApproval := settings.unchangedApproval

end ServerSettings

end SignedAdmission
