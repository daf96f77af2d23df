import SignedAdmission.Json.Reader
import SignedAdmission.Settings.Ini
import SignedAdmission.Settings.Json5
import SignedAdmission.Settings.Ron
import SignedAdmission.Toml.Document
import SignedAdmission.Yaml.Node

/-! The formats of settings files, told apart by the extension of the file's name. -/
namespace SignedAdmission

namespace SettingValue

def inInt64 (i : Int) : Bool :=
  -(Nat.pow 2 63) ≤ i && i < Nat.pow 2 63

/-- An integer that does not fit is taken as a real. -/
def ofInt (i : Int) : SettingValue :=
  if inInt64 i then .integer i else .real (Numeral.nearest ⟨i < 0, i.natAbs, 0⟩)

def ofJson : Json → SettingValue
  | .null => .absent
  | .bool b => .boolean b
  | .number (.int i) => ofInt i
  | .number (.float x) => .real (.finite x)
  | .string s => .text s
  | .array _ => .list
  | .object fields => .table fields.isEmpty

def ofToml : Toml.Value → SettingValue
  | .text s => .text s
  | .integer i => .integer i
  | .real x => .real x
  | .boolean b => .boolean b
  | .moment s => .text s
  | .array _ => .list
  | .table _ entries => .table entries.isEmpty
  | .tables _ => .list

end SettingValue

namespace SettingTable

def ofToml (entries : Toml.Entries) : SettingTable :=
  entries.map fun (key, value) => (key, .ofToml value)

def ofJson? : Json → Option SettingTable
  | .object fields => some (fields.map fun (key, value) => (key, .ofJson value))
  | _ => none

end SettingTable

namespace YamlSetting

open Yaml (Node)

def integerIn64? (i : Option Int) : Option Int :=
  i.filter SettingValue.inInt64

/-- An integer in base 16 or 8, or one in base 10 with a sign or without. -/
def integer? (cs : List Char) : Option Int :=
  let based (base : Nat) (digits : List Char) : Option Int := do
    let (negative, digits) := Numeral.sign digits
    let values ← digits.mapM Json.Token.hexValue?
    if values.isEmpty || !values.all (· < base) then none
    let n : Nat := values.foldl (fun n d => base * n + d) 0
    return if negative then -(n : Int) else n
  let prefixed :=
    match cs with
    | '0' :: 'x' :: rest => integerIn64? (based 16 rest)
    | '0' :: 'o' :: rest => integerIn64? (based 8 rest)
    | '+' :: rest => integerIn64? (SettingValue.signedDigits? rest)
    | _ => none
  prefixed.or (integerIn64? (SettingValue.signedDigits? cs))

/-- Names of values that are no numbers, which settings cannot have. -/
def isSpecialReal (text : String) : Bool :=
  [".inf", ".Inf", ".INF", "+.inf", "+.Inf", "+.INF", "-.inf", "-.Inf", "-.INF", ".nan", ".NaN",
    ".NAN"].contains text

/-- What a plain scalar means as a setting. -/
def ofPlain? (text : String) : Option SettingValue :=
  if ["", "~", "null"].contains text then some .absent
  else if text = "true" then some (.boolean true)
  else if text = "false" then some (.boolean false)
  else
    match integer? text.toList with
    | some i => some (.integer i)
    | none =>
      if isSpecialReal text then none
      else
        match Real64.parse? text.toList with
        | some x => some (.real x)
        | none => some (.text text)

/-- A tag of the standard asks for a type, and a text that does not have it is nothing. -/
def ofTagged? (tag text : String) : Option SettingValue :=
  match tag with
  | "tag:yaml.org,2002:bool" =>
    if text = "true" then some (.boolean true)
    else if text = "false" then some (.boolean false)
    else some .absent
  | "tag:yaml.org,2002:int" =>
    some ((integerIn64? (SettingValue.signedDigits? text.toList)).elim .absent .integer)
  | "tag:yaml.org,2002:float" =>
    if isSpecialReal text then none else some ((Real64.parse? text.toList).elim .absent .real)
  | "tag:yaml.org,2002:null" => some .absent
  | _ => some (.text text)

def scalar? (tag : Option String) (plain : Bool) (text : String) : Option SettingValue :=
  if !plain then some (.text text)
  else
    match tag with
    | some tag => ofTagged? tag text
    | none => ofPlain? text

/-- The name that a key gives, if it gives one. -/
def keyText? : Node → Option String
  | .scalar tag plain text =>
    match scalar? tag plain text with
    | some (.text s) => some s
    | some (.integer i) => some (toString i)
    | _ => none
  | _ => none

mutual

/-- The value of a node, none if anything in it has no value or a key comes twice. -/
def value? : Node → Option SettingValue
  | .scalar tag plain text => scalar? tag plain text
  | .sequence _ items => if areValues items then some .list else none
  | .mapping _ entries => (table? [] entries).map fun table => .table table.isEmpty
  | .cyclic => some .absent

def areValues : List Node → Bool
  | [] => true
  | item :: rest => (value? item).isSome && areValues rest

def table? (names : List String) : List (Node × Node) → Option SettingTable
  | [] => some []
  | (key, node) :: rest => do
    let value ← value? node
    match keyText? key with
    | none => table? names rest
    | some name =>
      if names.contains name then none
      else return (name, value) :: (← table? (name :: names) rest)

end

end YamlSetting

/-- The settings of a YAML text with at most one document. -/
def SettingTable.ofYaml? (text : List Char) : Option SettingTable := do
  match ← Yaml.documents? text with
  | [] => return []
  | [.mapping _ entries] => YamlSetting.table? [] entries
  | _ => none

/-- The part of a file name after its last dot, which is not the first character. -/
def extension? (name : String) : Option String :=
  let reversed := (name.toList.reverse.takeWhile (· != '/'))
  let ending := reversed.takeWhile (· != '.')
  if ending.length + 1 < reversed.length then some (String.ofList ending.reverse) else none

/-- The settings of a file, none if its format is unknown or its text malformed. A byte order mark
may come first. -/
def SettingTable.ofFile? (name : String) (text : List Char) : Option SettingTable := do
  let text :=
    match text with
    | '\uFEFF' :: rest => rest
    | text => text
  match ← extension? name with
  | "yaml" | "yml" => ofYaml? text
  | "json" => ofJson? (← Json.parse? text)
  | "toml" => ofToml (← Toml.document? text)
  | "ini" => Ini.parse? text
  | "json5" => Json5.parse? text
  | "ron" => Ron.parse? text
  | _ => none

end SignedAdmission
