import SignedAdmission.Policy.Selection
import SignedAdmission.Validator.Settings
import SignedAdmission.Yaml.Meaning

/-! The configuration of validators and policy rules, a YAML document. -/
namespace SignedAdmission

structure ValidationSettings where
  validators : List ValidatorSettings
  rules : List Rule

/-- Why a configuration is refused. -/
inductive ValidationFault where
  | unreadable
  | repeatedDefault
  | emptyPattern
  | trust (error : TrustError)

def ValidationFault.message : ValidationFault → String
  | unreadable => "invalid validation config: <yaml>"
  | repeatedDefault =>
    "invalid validation config: only one validator may be named " ++ Rule.defaultValidator
  | emptyPattern => "invalid validation config: policy rule with an empty pattern"
  | trust error => error.message

namespace ValidationSettings

open Yaml (Node)

/-- Collections may lie inside each other so deep. -/
def maxDepth : Nat := 128

/-- The entries of a record by the text of their keys; what is left out is an empty record. -/
def entries? : Node → Option (List (String × Node))
  | .mapping _ entries => entries.mapM fun (key, value) => do return (← key.text?, value)
  | .scalar _ true "" => some []
  | _ => none

/-- The items of a list; what is left out is an empty list. -/
def items? : Node → Option (List Node)
  | .sequence _ items => some items
  | .scalar _ true "" => some []
  | _ => none

/-- The value of a field that may be missing but not come twice. -/
def field? (name : String) (entries : List (String × Node)) : Option (Option Node) :=
  match entries.filter (·.1 == name) with
  | [] => some none
  | [(_, value)] => some (some value)
  | _ => none

/-- The value of a field that comes once. -/
def required? (name : String) (entries : List (String × Node)) : Option Node := do
  (← field? name entries)

/-- Whether nothing is given. The tag of null takes no other text. -/
def isAbsent? : Node → Option Bool
  | .scalar tag true text =>
    match tag with
    | some "tag:yaml.org,2002:null" => if Yaml.Meaning.isNull text then some true else none
    | some _ => some false
    | none => some (text == "" || Yaml.Meaning.isNull text)
  | _ => some false

def optionalText? (node : Option Node) : Option (Option String) := do
  match node with
  | none => return none
  | some node => if ← isAbsent? node then return none else return some (← node.text?)

/-- The keys of nested settings must be texts. -/
def settings? (depth : Nat) : List (String × Node) → Json.Fields → Option Json.Fields
  | [], fields => some fields
  | (key, node) :: rest, fields => do
    if key = "name" ∨ key = "type" then settings? depth rest fields
    else settings? depth rest (Json.setField key (← node.toJson? true depth) fields)

def validator? (depth : Nat) (node : Node) : Option ValidatorSettings := do
  let entries ← entries? node
  return {
    name := ← (← required? "name" entries).text?
    type := ← (← required? "type" entries).text?
    settings := ← settings? depth entries [] }

/-- The keys of arguments are taken as texts. -/
def arguments? (depth : Nat) (node : Node) : Option Json.Fields := do
  (← entries? node).foldlM
    (fun fields (key, value) => do
      return Json.setField key (← value.toJson? false depth) fields) []

def rule? (depth : Nat) (node : Node) : Option Rule := do
  let entries ← entries? node
  let arguments ←
    match ← field? "with" entries with
    | some node => arguments? (depth - 1) node
    | none => some []
  return {
    pattern := ← (← required? "pattern" entries).text?
    validator := ← optionalText? (← field? "validator" entries)
    arguments := arguments }

def ofNode? (node : Node) : Option ValidationSettings := do
  let entries ← entries? node
  let depth := maxDepth - 3
  return {
    validators := ← (← items? (← required? "validators" entries)).mapM (validator? depth)
    rules := ← (← items? (← required? "policy" entries)).mapM (rule? depth) }

/-- The settings of a text with one document. -/
def parse? (text : List Char) : Option ValidationSettings := do
  match ← Yaml.documents? text with
  | [node] => ofNode? node
  | _ => none

/-- Faults beyond the form, in the order in which they are reported. -/
def fault? (s : ValidationSettings) : Option ValidationFault :=
  if 1 < s.validators.countP (·.name == Rule.defaultValidator) then some .repeatedDefault
  else
    match s.validators.find? fun v => (ValidatorKind.ofText? v.type).isNone with
    | some v => some (.trust (.validatorType v.type))
    | none => if s.rules.any (·.pattern == "") then some .emptyPattern else none

def ofText (text : List Char) : Except ValidationFault ValidationSettings :=
  match parse? text with
  | none => .error .unreadable
  | some s =>
    match s.fault? with
    | some fault => .error fault
    | none => .ok s

/-- Builds the validators first and the policy after them. -/
def build (env : Environment) (s : ValidationSettings) :
    Except TrustError (Validators × Policy) := do
  let validators ← Validators.ofList (← s.validators.mapM (·.build env))
  return (validators, ← Policy.compile s.rules)

end ValidationSettings

end SignedAdmission
