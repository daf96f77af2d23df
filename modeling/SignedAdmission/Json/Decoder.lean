import SignedAdmission.Json.Printer
import SignedAdmission.Text.Quoted

/-! Reading typed data out of JSON values. A record comes from an object, whose fields are visited
in the order they are written, or from an array that lists its fields in the order they are
declared. -/
namespace SignedAdmission.Json

/-- What a decoder wants to find. -/
inductive Wanted where
  | string
  | boolean
  | unsigned
  | sequence
  | map
  | record (name : String)
deriving DecidableEq, Repr

def Wanted.describe : Wanted → String
  | .string => "a string"
  | .boolean => "a boolean"
  | .unsigned => "u64"
  | .sequence => "a sequence"
  | .map => "a map"
  | .record name => "struct " ++ name

/-- Why a value does not have the shape that is wanted. -/
inductive ShapeError where
  | wrongType (found : Json) (wanted : Wanted)
  | negative (found : Int)
  | duplicate (field : String)
  | missing (field : String)
  | tooFew (index : Nat) (record : String) (fields : Nat)
  | tooMany (count : Nat)

/-- A value as messages show it: scalars with their content, containers by their type. -/
def describe : Json → String
  | .null => "null"
  | .bool b => "boolean `" ++ (if b then "true" else "false") ++ "`"
  | .number (.int i) => "integer `" ++ String.ofList (intText i) ++ "`"
  | .number (.float x) => "floating point `" ++ String.ofList (x.format floatForm) ++ "`"
  | .string s => "string " ++ Text.quoted s
  | .array _ => "sequence"
  | .object _ => "map"

def ShapeError.message : ShapeError → String
  | .wrongType found wanted =>
    "invalid type: " ++ found.describe ++ ", expected " ++ wanted.describe
  | .negative found =>
    "invalid value: integer `" ++ String.ofList (intText found) ++ "`, expected u64"
  | .duplicate field => "duplicate field `" ++ field ++ "`"
  | .missing field => "missing field `" ++ field ++ "`"
  | .tooFew index record fields =>
    "invalid length " ++ toString index ++ ", expected struct " ++ record ++ " with " ++
      toString fields ++ (if fields = 1 then " element" else " elements")
  | .tooMany count => "invalid length " ++ toString count ++ ", expected fewer elements in array"

abbrev Decoder (α : Type) := Json → Except ShapeError α

namespace Decoder

def any : Decoder Json := .ok

def string : Decoder String
  | .string s => .ok s
  | other => .error (.wrongType other .string)

def boolean : Decoder Bool
  | .bool b => .ok b
  | other => .error (.wrongType other .boolean)

def unsigned : Decoder Nat
  | .number (.int i) => if i < 0 then .error (.negative i) else .ok i.toNat
  | other => .error (.wrongType other .unsigned)

def optional (decode : Decoder α) : Decoder (Option α)
  | .null => .ok none
  | value => some <$> decode value

def list (decode : Decoder α) : Decoder (List α)
  | .array items => items.mapM decode
  | other => .error (.wrongType other .sequence)

def fields : Decoder Fields
  | .object fields => .ok fields
  | other => .error (.wrongType other .map)

/-- The entries of an object in the order of their keys. -/
def dictionary (decode : Decoder α) : Decoder (List (String × α))
  | .object fields => do
    let entries ← fields.mapM fun (key, value) => do return (key, ← decode value)
    return entries.mergeSort fun a b => decide (a.1 ≤ b.1)
  | other => .error (.wrongType other .map)

end Decoder

/-- Whether a field may be left out: never, in objects only, or in objects and at the end of
arrays. -/
inductive Absence (α : Type) where
  | refused
  | inObjects (value : α)
  | anywhere (value : α)

/-- One field of a record. -/
structure RecordField (α : Type) where
  name : String
  decode : Decoder α
  absence : Absence α := .refused
  aliases : List String := []

/-- A field without its type: the names it goes by, a test of its value, and whether an array may
end before it. -/
structure FieldRule where
  name : String
  names : List String
  check : Json → Except ShapeError Unit
  mayEnd : Bool

def RecordField.rule (field : RecordField α) : FieldRule where
  name := field.name
  names := field.name :: field.aliases
  check value := do discard (field.decode value)
  mayEnd :=
    match field.absence with
    | .anywhere _ => true
    | _ => false

/-- The values found for the fields of a record, by declared name. -/
abbrev Slots := List (String × Json)

def RecordField.get (field : RecordField α) (slots : Slots) : Except ShapeError α :=
  match slots.lookup field.name with
  | some value => field.decode value
  | none =>
    match field.absence with
    | .refused => .error (.missing field.name)
    | .inObjects value => .ok value
    | .anywhere value => .ok value

namespace Record

/-- Visits the fields of an object. Unknown fields are passed over, a field that comes twice is
refused, and the first value of a wrong type ends the visit. -/
def visit (rules : List FieldRule) : Fields → Slots → Except ShapeError Slots
  | [], slots => .ok slots
  | (key, value) :: rest, slots =>
    match rules.find? (·.names.contains key) with
    | none => visit rules rest slots
    | some rule =>
      if (slots.lookup rule.name).isSome then .error (.duplicate rule.name)
      else do
        rule.check value
        visit rules rest (slots ++ [(rule.name, value)])

/-- Assigns the items of an array to the declared fields; `index` fields are assigned already. -/
def assign (record : String) (count size : Nat) :
    Nat → List FieldRule → List Json → Except ShapeError Slots
  | _, [], [] => .ok []
  | _, [], _ :: _ => .error (.tooMany count)
  | index, rule :: rules, [] =>
    if rule.mayEnd then assign record count size (index + 1) rules []
    else .error (.tooFew index record size)
  | index, rule :: rules, item :: items => do
    rule.check item
    return (rule.name, item) :: (← assign record count size (index + 1) rules items)

/-- The slots of a record named `record`. -/
def slots (record : String) (rules : List FieldRule) : Json → Except ShapeError Slots
  | .object fields => visit rules fields []
  | .array items => assign record items.length rules.length 0 rules items
  | other => .error (.wrongType other (.record record))

end Record

end SignedAdmission.Json
