import SignedAdmission.Json.Token
import SignedAdmission.Settings.Comment
import SignedAdmission.Settings.Value
import SignedAdmission.Text.Space
import SignedAdmission.Text.Word

/-! Settings in JSON5: JSON with comments, names as keys, either quote, commas at the end, and more
ways to write numbers. -/
namespace SignedAdmission.Json5

def isBreak (c : Char) : Bool :=
  c == '\n' || c == '\r' || c == '\u2028' || c == '\u2029'

def isBlank (c : Char) : Bool :=
  c == '\uFEFF' || (c != '\u0085' && Text.isSpace c)

def skip? (cs : List Char) : Option (List Char) :=
  Comment.skip? isBlank isBreak false (cs.length + 1) cs

def singleEscapes : List (Char × Char) :=
  [('b', '\x08'), ('f', '\x0c'), ('n', '\n'), ('r', '\r'), ('t', '\t'), ('v', '\x0b')]

/-- The characters of an escape, after its backslash, and how many characters it takes. A line break
after a backslash stands for nothing. -/
def escape? : List Char → Option (List Char × Nat)
  | 'x' :: a :: b :: _ => do
    return ([Char.ofNat (16 * (← Json.Token.hexValue? a) + (← Json.Token.hexValue? b))], 3)
  | 'u' :: a :: b :: c :: d :: rest => do
    let unit ← Json.Token.hex4? a b c d
    if 0xD800 ≤ unit ∧ unit < 0xDC00 then
      match rest with
      | '\\' :: 'u' :: e :: f :: g :: h :: _ => do
        let low ← Json.Token.hex4? e f g h
        if 0xDC00 ≤ low ∧ low < 0xE000 then
          return ([Char.ofNat (0x10000 + (unit - 0xD800) * 0x400 + (low - 0xDC00))], 11)
        else none
      | _ => none
    else if 0xDC00 ≤ unit ∧ unit < 0xE000 then none
    else return ([Char.ofNat unit], 5)
  | '\r' :: '\n' :: _ => some ([], 2)
  | '0' :: rest => if rest.head?.any Char.isDigit then none else some (['\x00'], 1)
  | c :: _ =>
    if isBreak c then some ([], 1)
    else if c.isDigit || c == 'x' || c == 'u' then none
    else some ([(singleEscapes.lookup c).getD c], 1)
  | [] => none

/-- A string after its opening quote. -/
def string? (quote : Char) : Nat → List Char → Option (List Char × List Char)
  | _, [] => none
  | skip + 1, _ :: rest => string? quote skip rest
  | 0, c :: rest =>
    if c = quote then some ([], rest)
    else if c = '\\' then
      match escape? rest with
      | some (chars, count) => do
        let (text, rest) ← string? quote count rest
        return (chars ++ text, rest)
      | none => none
    else if c = '\n' ∨ c = '\r' then none
    else do
      let (text, rest) ← string? quote 0 rest
      return (c :: text, rest)

def isNameStart (c : Char) : Bool :=
  c == '$' || c == '_' || (Text.isWord c && !c.isDigit)

def isNamePart (c : Char) : Bool :=
  c == '$' || Text.isWord c || c == '\u200C' || c == '\u200D'

def key? (cs : List Char) : Option (String × List Char) :=
  match cs with
  | '"' :: rest => (string? '"' 0 rest).map fun (text, rest) => (String.ofList text, rest)
  | '\'' :: rest => (string? '\'' 0 rest).map fun (text, rest) => (String.ofList text, rest)
  | c :: _ =>
    if isNameStart c then
      let name := cs.takeWhile isNamePart
      some (String.ofList name, cs.drop name.length)
    else none
  | [] => none

def isNumberChar (c : Char) : Bool :=
  c.isAlphanum || c == '.' || c == '+' || c == '-'

def isWhole (digits : List Char) : Bool :=
  !digits.isEmpty && digits.all Char.isDigit &&
    (digits.length == 1 || digits.head? != some '0')

/-- A number without fraction and exponent is an integer of 64 bits. -/
def number? (cs : List Char) : Option SettingValue := do
  let (negative, digits) := Numeral.sign cs
  let integer (n : Nat) : Option SettingValue :=
    let i : Int := if negative then -(n : Int) else n
    if -(Nat.pow 2 63) ≤ i ∧ i < Nat.pow 2 63 then some (.integer i) else none
  match digits with
  | '0' :: x :: rest =>
    if x = 'x' ∨ x = 'X' then
      let values ← rest.mapM Json.Token.hexValue?
      if values.isEmpty then none
      integer (values.foldl (fun n d => 16 * n + d) 0)
    else real negative digits
  | digits =>
    if isWhole digits then integer (Numeral.digitsValue digits)
    else if digits = "Infinity".toList then some (.real (.infinite negative))
    else if digits = "NaN".toList then some (.real .nan)
    else real negative digits
where
  real (negative : Bool) (digits : List Char) : Option SettingValue := do
    let whole := digits.takeWhile Char.isDigit
    let signed := digits.head?.any fun c => c == '+' || c == '-'
    if signed || !(whole.isEmpty || isWhole whole) then none
    let n ← Numeral.parse? digits
    return .real { n with negative := negative }.nearest


def textValue (read : List Char × List Char) : SettingValue × List Char :=
  (.text (String.ofList read.1), read.2)

mutual

def value? : Nat → List Char → Option (SettingValue × List Char)
  | 0, _ => none
  | fuel + 1, cs =>
    match cs with
    | '\x7b' :: rest => do
      let (table, rest) ← fields? fuel rest
      return (.table table.isEmpty, rest)
    | '[' :: rest => do return (.list, ← items? fuel rest)
    | '"' :: rest => (string? '"' 0 rest).map textValue
    | '\'' :: rest => (string? '\'' 0 rest).map textValue
    | cs =>
      let word := cs.takeWhile isNumberChar
      let rest := cs.drop word.length
      if word = "null".toList then some (.absent, rest)
      else if word = "true".toList then some (.boolean true, rest)
      else if word = "false".toList then some (.boolean false, rest)
      else (number? word).map (·, rest)

/-- Passes the items of an array up to its end. -/
def items? : Nat → List Char → Option (List Char)
  | 0, _ => none
  | fuel + 1, cs => do
    let cs ← skip? cs
    if let ']' :: rest := cs then return rest
    let (_, rest) ← value? fuel cs
    match ← skip? rest with
    | ',' :: rest => items? fuel rest
    | ']' :: rest => return rest
    | _ => none

/-- The fields of an object up to its end. -/
def fields? : Nat → List Char → Option (SettingTable × List Char)
  | 0, _ => none
  | fuel + 1, cs => do
    let cs ← skip? cs
    if let '\x7d' :: rest := cs then return ([], rest)
    let (key, rest) ← key? cs
    let ':' :: rest ← skip? rest | none
    let (value, rest) ← value? fuel (← skip? rest)
    match ← skip? rest with
    | ',' :: rest => do
      let (more, rest) ← fields? fuel rest
      return ((key, value) :: more, rest)
    | '\x7d' :: rest => return ([(key, value)], rest)
    | _ => none

end

def parse? (cs : List Char) : Option SettingTable := do
  let '\x7b' :: rest ← skip? cs | none
  let (table, rest) ← fields? (cs.length + 1) rest
  if (← skip? rest).isEmpty then some table else none

end SignedAdmission.Json5
