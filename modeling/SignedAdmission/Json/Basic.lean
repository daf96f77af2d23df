import SignedAdmission.Decimal.Binary64

/-! JSON values whose objects keep the order of their fields. -/
namespace SignedAdmission

/-- Integers of 64 bits, signed or unsigned, stay integers; every other number is a double. -/
inductive Json.Number where
  | int (value : Int)
  | float (value : Binary64)
deriving DecidableEq, Repr

inductive Json where
  | null
  | bool (value : Bool)
  | number (value : Json.Number)
  | string (value : String)
  | array (items : List Json)
  | object (fields : List (String × Json))
deriving Inhabited

namespace Json

abbrev Fields := List (String × Json)

/-- A field that is already there keeps its place and takes the new value. -/
def setField (key : String) (value : Json) : Fields → Fields
  | [] => [(key, value)]
  | field :: rest =>
    if field.1 = key then (key, value) :: rest else field :: setField key value rest

/-- The value of a field, if the value is an object that has it. -/
def field? (key : String) : Json → Option Json
  | .object fields => fields.lookup key
  | _ => none

def string? : Json → Option String
  | .string s => some s
  | _ => none

def array? : Json → Option (List Json)
  | .array items => some items
  | _ => none

def isNull : Json → Bool
  | .null => true
  | _ => false

def ofNat (n : Nat) : Json :=
  .number (.int n)

/-- The fields that are there, in the order given. -/
def ofFields (fields : List (String × Option Json)) : Json :=
  .object (fields.filterMap fun (key, value) => value.map (key, ·))

end Json

end SignedAdmission
