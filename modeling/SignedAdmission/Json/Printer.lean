import SignedAdmission.Decimal.Shortest
import SignedAdmission.Json.Basic

/-! The compact form of a value: fields in order, no blanks, and only what must be escaped is. -/
namespace SignedAdmission.Json

/-- Doubles from `0.00001` up to below `10 ^ 16` are written without an exponent. -/
def floatForm : Binary64.DecimalForm := ⟨16, -5, true⟩

def intText (i : Int) : List Char :=
  (if i < 0 then ['-'] else []) ++ Nat.toDigits 10 i.natAbs

def Number.text : Number → List Char
  | .int i => intText i
  | .float x => x.format floatForm

def hexDigit (n : Nat) : Char :=
  Nat.digitChar n

/-- Quotes, backslashes and control characters are escaped. -/
def escape (c : Char) : List Char :=
  match c with
  | '"' => ['\\', '"']
  | '\\' => ['\\', '\\']
  | '\x08' => ['\\', 'b']
  | '\x0c' => ['\\', 'f']
  | '\n' => ['\\', 'n']
  | '\r' => ['\\', 'r']
  | '\t' => ['\\', 't']
  | c =>
    if c.toNat < 0x20 then
      ['\\', 'u', '0', '0', hexDigit (c.toNat / 16), hexDigit (c.toNat % 16)]
    else [c]

def stringText (s : String) : List Char :=
  '"' :: s.toList.flatMap escape ++ ['"']

mutual

def text : Json → List Char
  | .null => "null".toList
  | .bool true => "true".toList
  | .bool false => "false".toList
  | .number n => n.text
  | .string s => stringText s
  | .array items => '[' :: itemsText items ++ [']']
  | .object fields => '\x7b' :: fieldsText fields ++ ['\x7d']

/-- Items with a comma between any two. -/
def itemsText : List Json → List Char
  | [] => []
  | [item] => text item
  | item :: rest => text item ++ ',' :: itemsText rest

/-- Fields with a comma between any two. -/
def fieldsText : List (String × Json) → List Char
  | [] => []
  | [(key, value)] => stringText key ++ ':' :: text value
  | (key, value) :: rest => stringText key ++ ':' :: text value ++ ',' :: fieldsText rest

end

def compact (value : Json) : String :=
  String.ofList value.text

def bytes (value : Json) : List UInt8 :=
  value.compact.toUTF8.toList

end SignedAdmission.Json
