import SignedAdmission.Decimal.Numeral
import SignedAdmission.Decimal.Shortest
import SignedAdmission.Text.Lowercase

/-! Values of settings, loosely typed: a scalar is taken as what a setting wants, where that makes
sense. -/
namespace SignedAdmission

inductive SettingValue where
  | absent
  | boolean (value : Bool)
  | integer (value : Int)
  | real (value : Real64)
  | text (value : String)
  | list
  /-- No setting is a table; whether one is empty decides what becomes of a value it would
  replace. -/
  | table (empty : Bool)
deriving DecidableEq, Repr

namespace SettingValue

def lowercase (text : String) : String :=
  String.ofList (Text.lowercase text.toList)

/-- Digits with at most one sign in front. -/
def signedDigits? (cs : List Char) : Option Int :=
  let (negative, digits) := Numeral.sign cs
  if digits.isEmpty || !digits.all Char.isDigit then none
  else some (if negative then -(Numeral.digitsValue digits : Int) else Numeral.digitsValue digits)

/-- The value of a text that comes without a type. -/
def ofUntyped (value : String) : SettingValue :=
  match lowercase value with
  | "true" => .boolean true
  | "false" => .boolean false
  | _ =>
    match (signedDigits? value.toList).filter fun i =>
        -(Nat.pow 2 63 : Int) ≤ i ∧ i < Nat.pow 2 63 with
    | some i => .integer i
    | none =>
      match Real64.parse? value.toList with
      | some x => .real x
      | none => .text value

def boolean? : SettingValue → Option Bool
  | boolean b => some b
  | integer i => some (i != 0)
  | real (.finite x) => some !x.isZero
  | real _ => some true
  | text s =>
    let word := lowercase s
    if ["1", "true", "on", "yes"].contains word then some true
    else if ["0", "false", "off", "no"].contains word then some false
    else none
  | absent | list | table _ => none

def maxUnsigned : Nat := Nat.pow 2 64 - 1

/-- The nearest whole number, a half away from zero. -/
def rounded (x : Binary64) : Nat :=
  let (num, den) := x.ratio
  (2 * num + den) / (2 * den)

/-- A count of at most 64 bits. Reals are brought into its range. -/
def unsigned? : SettingValue → Option Nat
  | boolean b => some b.toNat
  | integer i => if 0 ≤ i then some i.toNat else none
  | real (.finite x) => some (if x.negative then 0 else min (rounded x) maxUnsigned)
  | real (.infinite negative) => some (if negative then 0 else maxUnsigned)
  | real .nan => some 0
  | text s =>
    let word := lowercase s
    if ["true", "on", "yes"].contains word then some 1
    else if ["false", "off", "no"].contains word then some 0
    else if s.toList.head? == some '-' then none
    else ((signedDigits? s.toList).map Int.toNat).filter (· ≤ maxUnsigned)
  | absent | list | table _ => none

/-- Reals are written without an exponent. -/
def realForm : Binary64.DecimalForm := ⟨400, -400, false⟩

def text? : SettingValue → Option String
  | text s => some s
  | boolean b => some (if b then "true" else "false")
  | integer i => some (toString i)
  | real (.finite x) => some (String.ofList (x.format realForm))
  | real (.infinite negative) => some (if negative then "-inf" else "inf")
  | real .nan => some "NaN"
  | absent | list | table _ => none

end SettingValue

/-- Values by name. Names are in lower case. -/
abbrev SettingTable := List (String × SettingValue)

namespace SettingTable

/-- A value takes the place of an earlier one; an empty table leaves an earlier value as it is. -/
def put (name : String) (value : SettingValue) : SettingTable → SettingTable
  | [] => [(name, value)]
  | entry :: rest =>
    if entry.1 = name then
      (name, if value = .table true then entry.2 else value) :: rest
    else entry :: put name value rest

def isIdentifierChar (c : Char) : Bool :=
  c.isAlphanum || c == '_' || c == '-'

/-- A number in brackets, with blanks around it. -/
def isIndex (cs : List Char) : Bool :=
  let digits := ((cs.dropWhile blank).reverse.dropWhile blank).reverse
  let digits := if digits.head? == some '-' then digits.tail else digits
  !digits.isEmpty && digits.all Char.isDigit
where
  blank (c : Char) : Bool := c == ' ' || c == '\t' || c == '\n' || c == '\r'

/-- Whether a text is a path below an identifier: children after dots, and items in brackets. -/
def isPathBelow : Nat → List Char → Bool
  | _, [] => true
  | 0, _ => false
  | fuel + 1, '.' :: rest =>
    let child := rest.takeWhile isIdentifierChar
    !child.isEmpty && isPathBelow fuel (rest.drop child.length)
  | fuel + 1, '[' :: rest =>
    let index := rest.takeWhile (· != ']')
    isIndex index && index.length < rest.length && isPathBelow fuel (rest.drop (index.length + 1))
  | _ + 1, _ => false

/-- A key that is a path puts something below the setting at its start, which is no scalar then. -/
def set (table : SettingTable) (key : String) (value : SettingValue) : SettingTable :=
  let key := SettingValue.lowercase key
  let start := key.toList.takeWhile isIdentifierChar
  let below := key.toList.drop start.length
  if !start.isEmpty && !below.isEmpty && isPathBelow below.length below then
    table.put (String.ofList start) (.table false)
  else table.put key value

def setAll (table : SettingTable) (entries : SettingTable) : SettingTable :=
  entries.foldl (fun table (key, value) => table.set key value) table

end SettingTable

end SignedAdmission
