import SignedAdmission.Decimal.Numeral
import SignedAdmission.Json.Basic
import SignedAdmission.Yaml.Node

/-! What YAML nodes mean as JSON values. A plain scalar means null, a boolean or a number if it is
spelled like one, and itself otherwise. -/
namespace SignedAdmission.Yaml

inductive Meaning where
  | null
  | bool (value : Bool)
  | number (value : Json.Number)
  | text
  /-- An integer beyond 64 bits. -/
  | tooLarge
deriving DecidableEq, Repr

namespace Meaning

def isNull (text : String) : Bool :=
  ["null", "Null", "NULL", "~"].contains text

def bool? (text : String) : Option Bool :=
  if ["true", "True", "TRUE"].contains text then some true
  else if ["false", "False", "FALSE"].contains text then some false
  else none

/-- The digits of a base, at least one. -/
def digits? (base : Nat) (cs : List Char) : Option Nat := do
  let values ← cs.mapM Json.Token.hexValue?
  if values.isEmpty || !values.all (· < base) then none
  return values.foldl (fun n d => base * n + d) 0

/-- Superfluous leading zeros make a text out of digits. -/
def hasLeadingZero (cs : List Char) : Bool :=
  let digits := (Numeral.sign cs).2
  digits.length != 1 && digits.head? == some '0' && digits.all Char.isDigit

/-- An integer in base 16, 8, 2 or 10. -/
def integer? (cs : List Char) : Option Int := do
  let (negative, digits) := Numeral.sign cs
  let magnitude ←
    match digits with
    | '0' :: 'x' :: rest => digits? 16 rest
    | '0' :: 'o' :: rest => digits? 8 rest
    | '0' :: 'b' :: rest => digits? 2 rest
    | digits => if hasLeadingZero cs then none else digits? 10 digits
  return if negative then -(magnitude : Int) else magnitude

def ofInteger? (i : Int) : Option Meaning :=
  if -(Nat.pow 2 63) ≤ i ∧ i < Nat.pow 2 64 then some (.number (.int i))
  else if -(Nat.pow 2 127) ≤ i ∧ i < Nat.pow 2 128 then some .tooLarge
  else none

/-- A number that is not finite has no JSON value. -/
def real? (text : String) : Option Meaning :=
  if [".inf", ".Inf", ".INF", "+.inf", "+.Inf", "+.INF", "-.inf", "-.Inf", "-.INF", ".nan", ".NaN",
      ".NAN"].contains text then some .null
  else if hasLeadingZero text.toList then none
  else
    match (Numeral.parse? text.toList).map Numeral.nearest with
    | some (.finite x) => some (.number (.float x))
    | _ => none

def number? (text : String) : Option Meaning :=
  (integer? text.toList).bind ofInteger?

def ofPlain (text : String) : Meaning :=
  if text = "" ∨ isNull text then .null
  else
    match bool? text with
    | some b => .bool b
    | none => ((number? text).or (real? text)).getD .text

/-- The meaning that a tag asks for; it is refused if the text does not have it. -/
def ofTag? (tag text : String) : Option Meaning :=
  match tag with
  | "tag:yaml.org,2002:bool" => (bool? text).map .bool
  | "tag:yaml.org,2002:int" => number? text
  | "tag:yaml.org,2002:float" =>
    if hasLeadingZero text.toList then
      match (Numeral.parse? text.toList).map Numeral.nearest with
      | some (.finite x) => some (.number (.float x))
      | _ => none
    else real? text
  | "tag:yaml.org,2002:null" => if isNull text then some .null else none
  | _ => some .text

def toJson? (text : String) : Meaning → Option Json
  | .null => some .null
  | .bool b => some (.bool b)
  | .number n => some (.number n)
  | .text => some (.string text)
  | .tooLarge => none

end Meaning

namespace Node

/-- A tag that the text itself introduces has no meaning. -/
def isOwnTag (tag : Option String) : Bool :=
  tag.any fun text => text.toList.head? == some '!'

/-- The text of a scalar, whatever else it may mean. -/
def text? : Node → Option String
  | .scalar _ _ text => some text
  | _ => none

def scalarJson? (tag : Option String) (plain : Bool) (text : String) : Option Json :=
  if isOwnTag tag then none
  else
    match tag with
    | some tag => (Meaning.ofTag? tag text).bind (·.toJson? text)
    | none => (if plain then Meaning.ofPlain text else .text).toJson? text

/-- A key is a text; where `strict` is set, a plain scalar that means something else is none. -/
def key? (strict : Bool) (node : Node) : Option String :=
  match node with
  | .scalar tag plain text =>
    if strict then (scalarJson? tag plain text).bind Json.string? else some text
  | _ => none

mutual

/-- The value of a node with at most `depth` collections inside each other. -/
def toJson? (strict : Bool) (depth : Nat) : Node → Option Json
  | .scalar tag plain text => scalarJson? tag plain text
  | .sequence tag items =>
    if isOwnTag tag || depth == 0 then none else .array <$> itemsJson? strict (depth - 1) items
  | .mapping tag entries =>
    if isOwnTag tag || depth == 0 then none
    else .object <$> entriesJson? strict (depth - 1) [] entries
  | .cyclic => none

def itemsJson? (strict : Bool) (depth : Nat) : List Node → Option (List Json)
  | [] => some []
  | item :: rest => do return (← toJson? strict depth item) :: (← itemsJson? strict depth rest)

/-- A repeated key keeps its first place and takes the last value. -/
def entriesJson? (strict : Bool) (depth : Nat) (fields : Json.Fields) :
    List (Node × Node) → Option Json.Fields
  | [] => some fields
  | (key, value) :: rest => do
    entriesJson? strict depth
      (Json.setField (← key.key? strict) (← toJson? strict depth value) fields) rest

end

end Node

end SignedAdmission.Yaml
