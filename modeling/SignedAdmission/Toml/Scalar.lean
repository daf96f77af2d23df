import SignedAdmission.Decimal.Numeral
import SignedAdmission.Instant
import SignedAdmission.Json.Token

/-! The scalars of TOML: strings of four kinds, numbers, booleans, dates and times. -/
namespace SignedAdmission.Toml

def isControl (c : Char) : Bool :=
  (c.toNat < 0x20 && c != '\t') || c.toNat == 0x7F

/-- What is left after a line break, if there is one. -/
def lineBreak? : List Char → Option (List Char)
  | '\n' :: rest => some rest
  | '\r' :: '\n' :: rest => some rest
  | _ => none

def hexChar? (digits : List Char) : Option Char := do
  let values ← digits.mapM Json.Token.hexValue?
  let code := values.foldl (fun n d => 16 * n + d) 0
  if code ≤ 0x10FFFF && !(0xD800 ≤ code && code ≤ 0xDFFF) then some (Char.ofNat code) else none

/-- The character of an escape, after its backslash, and how many characters it takes. -/
def escape? : List Char → Option (Char × Nat)
  | 'b' :: _ => some ('\x08', 1)
  | 't' :: _ => some ('\t', 1)
  | 'n' :: _ => some ('\n', 1)
  | 'f' :: _ => some ('\x0c', 1)
  | 'r' :: _ => some ('\r', 1)
  | '"' :: _ => some ('"', 1)
  | '\\' :: _ => some ('\\', 1)
  | 'u' :: rest => if (rest.take 4).length = 4 then (hexChar? (rest.take 4)).map (·, 5) else none
  | 'U' :: rest => if (rest.take 8).length = 8 then (hexChar? (rest.take 8)).map (·, 9) else none
  | _ => none

/-- A string on one line, after its opening quote. `skip` characters belong to an escape that is
read already. -/
def line? (quote : Char) : Nat → List Char → Option (List Char × List Char)
  | _, [] => none
  | skip + 1, _ :: rest => line? quote skip rest
  | 0, c :: rest =>
    let keep (char : Char) (skip : Nat) : Option (List Char × List Char) := do
      let (text, rest) ← line? quote skip rest
      return (char :: text, rest)
    if c == quote then some ([], rest)
    else if quote == '"' && c == '\\' then
      match escape? rest with
      | some (char, count) => keep char count
      | none => none
    else if isControl c then none
    else keep c 0

/-- The number of quotes at the start. -/
def quotes (quote : Char) (cs : List Char) : Nat :=
  (cs.takeWhile (· == quote)).length

def isBlank (c : Char) : Bool := c == ' ' || c == '\t'

/-- Whether a line ends after blanks. -/
def endsLine (cs : List Char) : Bool :=
  (lineBreak? (cs.dropWhile isBlank)).isSome

/-- A string over many lines, after its opening quotes. `trim` says that blanks and line breaks are
passed over, as they are after a backslash at the end of a line. Three quotes close the string, and
up to two more before them belong to it. -/
def block? (quote : Char) (trim : Bool) : Nat → List Char → Option (List Char × List Char)
  | _, [] => none
  | skip + 1, _ :: rest => block? quote trim skip rest
  | 0, c :: rest =>
    let keep (char : Char) (skip : Nat) : Option (List Char × List Char) := do
      let (text, rest) ← block? quote false skip rest
      return (char :: text, rest)
    if trim && (isBlank c || c == '\n' || (c == '\r' && rest.head? == some '\n')) then
      block? quote true 0 rest
    else if c == quote && 3 ≤ quotes quote (c :: rest) then
      let inside := min (quotes quote (c :: rest) - 3) 2
      some (List.replicate inside quote, (c :: rest).drop (inside + 3))
    else if c == '\r' && rest.head? == some '\n' then keep '\n' 1
    else if c == '\n' then keep '\n' 0
    else if quote == '"' && c == '\\' then
      if endsLine rest then block? quote true 0 rest
      else
        match escape? rest with
        | some (char, count) => keep char count
        | none => none
    else if isControl c then none
    else keep c 0

/-- A string, from its first quote on. -/
def string? (many : Bool) : List Char → Option (String × List Char)
  | quote :: rest =>
    if quote != '"' && quote != '\'' then none
    else if many && rest.take 2 == [quote, quote] then do
      let inner := rest.drop 2
      let (text, rest) ← block? quote false 0 ((lineBreak? inner).getD inner)
      return (String.ofList text, rest)
    else do
      let (text, rest) ← line? quote 0 rest
      return (String.ofList text, rest)
  | [] => none

/-- Digits in which an underscore stands between two others. -/
def plainDigits? (isDigit : Char → Bool) (cs : List Char) : Option (List Char) :=
  let rec check : Bool → List Char → Bool
    | afterDigit, [] => afterDigit
    | afterDigit, c :: rest =>
      if c == '_' then afterDigit && check false rest else isDigit c && check true rest
  if check false cs then some (cs.filter (· != '_')) else none

def based? (base : Nat) (cs : List Char) : Option Int := do
  let digits ← plainDigits? (fun c => (Json.Token.hexValue? c).any (· < base)) cs
  let values ← digits.mapM Json.Token.hexValue?
  return (values.foldl (fun n d => base * n + d) 0 : Nat)

/-- Decimal digits without superfluous leading zeros. -/
def whole? (cs : List Char) : Option (List Char) := do
  let digits ← plainDigits? Char.isDigit cs
  if digits.length != 1 && digits.head? == some '0' then none else some digits

def integer? (cs : List Char) : Option Int := do
  let i ←
    match cs with
    | '0' :: 'x' :: rest => based? 16 rest
    | '0' :: 'o' :: rest => based? 8 rest
    | '0' :: 'b' :: rest => based? 2 rest
    | cs => do
      let (negative, digits) := Numeral.sign cs
      let n := Numeral.digitsValue (← whole? digits)
      pure (if negative then -(n : Int) else n)
  if -(Nat.pow 2 63) ≤ i ∧ i < Nat.pow 2 63 then some i else none

/-- A real has a fraction or an exponent; both may have leading zeros. -/
def real? (cs : List Char) : Option Real64 := do
  let (negative, body) := Numeral.sign cs
  if body = "inf".toList then return .infinite negative
  if body = "nan".toList then return .nan
  let mantissa := body.takeWhile fun c => c != 'e' && c != 'E'
  let exponent := body.drop mantissa.length
  let whole := mantissa.takeWhile (· != '.')
  let fraction := mantissa.drop whole.length
  if fraction.isEmpty && exponent.isEmpty then none
  let wholeDigits ← whole? whole
  let fractionDigits ← if fraction.isEmpty then some [] else plainDigits? Char.isDigit fraction.tail
  let exponentValue ←
    if exponent.isEmpty then some 0
    else do
      let (down, digits) := Numeral.sign exponent.tail
      let n := Numeral.digitsValue (← plainDigits? Char.isDigit digits)
      pure (if down then -(n : Int) else n)
  let x := Numeral.nearest ⟨negative, Numeral.digitsValue (wholeDigits ++ fractionDigits),
    exponentValue - fractionDigits.length⟩
  if x = .infinite false then none else some x

def digitsAt? (count : Nat) (cs : List Char) : Option (Nat × List Char) :=
  let digits := cs.take count
  if digits.length = count && digits.all Char.isDigit then
    some (Numeral.digitsValue digits, cs.drop count)
  else none

/-- A date such as `1979-05-27`. -/
def date? (cs : List Char) : Option (List Char × List Char) := do
  let (year, '-' :: rest) ← digitsAt? 4 cs | none
  let (month, '-' :: rest) ← digitsAt? 2 rest | none
  let (day, rest) ← digitsAt? 2 rest
  if 1 ≤ month ∧ month ≤ 12 ∧ 1 ≤ day ∧ day ≤ Instant.daysInMonth year month then
    some (cs.take 10, rest)
  else none

/-- The digits of a fraction of a second, nine at most and without trailing zeros. -/
def fractionText (digits : List Char) : List Char :=
  match ((digits.take 9).reverse.dropWhile (· == '0')).reverse with
  | [] => []
  | kept => '.' :: kept

/-- A time such as `07:32:00.5`. -/
def time? (cs : List Char) : Option (List Char × List Char) := do
  let (hour, ':' :: rest) ← digitsAt? 2 cs | none
  let (minute, ':' :: rest) ← digitsAt? 2 rest | none
  let (second, rest) ← digitsAt? 2 rest
  if 23 < hour ∨ 59 < minute ∨ 60 < second then none
  match rest with
  | '.' :: more =>
    let digits := more.takeWhile Char.isDigit
    if digits.isEmpty then none
    return (cs.take 8 ++ fractionText digits, more.drop digits.length)
  | rest => return (cs.take 8, rest)

/-- The distance from universal time that ends a text. -/
def offset? : List Char → Option (List Char)
  | [] => some []
  | ['Z'] => some ['Z']
  | ['z'] => some ['Z']
  | sign :: rest => do
    let (hour, ':' :: minutes) ← digitsAt? 2 rest | none
    let (minute, []) ← digitsAt? 2 minutes | none
    if (sign == '+' || sign == '-') && hour ≤ 23 && minute ≤ 59 then
      some ((if hour = 0 ∧ minute = 0 then '+' else sign) :: rest)
    else none

/-- A date, a time, or both, in the form with a `T` between them and a `Z` for universal time. -/
def moment? (cs : List Char) : Option (List Char) :=
  match date? cs with
  | some (date, []) => some date
  | some (date, separator :: rest) =>
    if separator == 'T' || separator == 't' || separator == ' ' then do
      let (time, rest) ← time? rest
      return date ++ 'T' :: time ++ (← offset? rest)
    else none
  | none =>
    match time? cs with
    | some (time, []) => some time
    | _ => none

end SignedAdmission.Toml
