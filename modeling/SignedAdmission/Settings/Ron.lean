import SignedAdmission.Json.Token
import SignedAdmission.Settings.Comment
import SignedAdmission.Settings.Value
import SignedAdmission.Text.Space
import SignedAdmission.Text.Word

/-! Settings in the object notation that knows structures, tuples, options and characters besides
maps, lists and scalars. -/
namespace SignedAdmission.Ron

def isBlank (c : Char) : Bool :=
  ['\t', '\n', '\x0b', '\x0c', '\r', ' ', '\u0085', '\u200e', '\u200f', '\u2028',
    '\u2029'].contains c

def skip? (cs : List Char) : Option (List Char) :=
  Comment.skip? isBlank (· == '\n') true (cs.length + 1) cs

def singleEscapes : List (Char × Char) :=
  [('\'', '\''), ('"', '"'), ('\\', '\\'), ('n', '\n'), ('r', '\r'), ('t', '\t'), ('0', '\x00')]

/-- The character of an escape, after its backslash, and how many characters it takes. -/
def escape? : List Char → Option (Char × Nat)
  | 'x' :: a :: b :: _ => do
    return (Char.ofNat (16 * (← Json.Token.hexValue? a) + (← Json.Token.hexValue? b)), 3)
  | 'u' :: '\x7b' :: rest => do
    let digits := rest.takeWhile (· != '\x7d')
    let values ← digits.mapM Json.Token.hexValue?
    let code := values.foldl (fun n d => 16 * n + d) 0
    if values.isEmpty || 6 < values.length || 0x10FFFF < code ||
        (0xD800 ≤ code && code ≤ 0xDFFF) then none
    return (Char.ofNat code, digits.length + 3)
  | c :: _ => (singleEscapes.lookup c).map (·, 1)
  | [] => none

/-- A string after its opening quote. -/
def string? : Nat → List Char → Option (List Char × List Char)
  | _, [] => none
  | skip + 1, _ :: rest => string? skip rest
  | 0, c :: rest =>
    if c = '"' then some ([], rest)
    else do
      let (char, skip) ← if c = '\\' then escape? rest else some (c, 0)
      let (text, rest) ← string? skip rest
      return (char :: text, rest)

/-- A raw string after its quote, up to a quote with as many number signs. -/
def raw? (signs : List Char) : List Char → Option (List Char × List Char)
  | [] => none
  | c :: rest =>
    if c = '"' && signs.isPrefixOf rest then some ([], rest.drop signs.length)
    else do
      let (text, rest) ← raw? signs rest
      return (c :: text, rest)

def rawString? (cs : List Char) : Option (List Char × List Char) :=
  let signs := cs.takeWhile (· == '#')
  match cs.drop signs.length with
  | '"' :: rest => raw? signs rest
  | _ => none

/-- A character after its quote. -/
def character? : List Char → Option (Char × List Char)
  | '\\' :: rest => do
    let (char, count) ← escape? rest
    match rest.drop count with
    | '\'' :: rest => some (char, rest)
    | _ => none
  | c :: '\'' :: rest => if c = '\'' then none else some (c, rest)
  | _ => none

def isNameStart (c : Char) : Bool :=
  c == '_' || (Text.isWord c && !c.isDigit)

def name (cs : List Char) : List Char :=
  if cs.head?.any isNameStart then cs.takeWhile Text.isWord else []

def digits? (base : Nat) (cs : List Char) : Option Nat := do
  let values ← (cs.filter (· != '_')).mapM Json.Token.hexValue?
  if values.isEmpty || !values.all (· < base) || cs.head? == some '_' then none
  return values.foldl (fun n d => base * n + d) 0

/-- A number: an integer in base 16, 8, 2 or 10, or a real with a fraction or an exponent. -/
def number? (cs : List Char) : Option SettingValue := do
  let (negative, digits) := Numeral.sign cs
  let magnitude :=
    match digits with
    | '0' :: 'x' :: rest => digits? 16 rest
    | '0' :: 'o' :: rest => digits? 8 rest
    | '0' :: 'b' :: rest => digits? 2 rest
    | digits => digits? 10 digits
  match magnitude with
  | some n =>
    let i : Int := if negative then -(n : Int) else n
    if -(Nat.pow 2 63) ≤ i ∧ i < Nat.pow 2 63 then some (.integer i) else none
  | none =>
    let n ← Numeral.parse? (cs.filter (· != '_'))
    return .real n.nearest

def isNumberChar (c : Char) : Bool :=
  c.isAlphanum || c == '_' || c == '.' || c == '+' || c == '-'

def textValue (read : List Char × List Char) : SettingValue × List Char :=
  (.text (String.ofList read.1), read.2)

mutual

def value? : Nat → List Char → Option (SettingValue × List Char)
  | 0, _ => none
  | fuel + 1, cs =>
    match cs with
    | '"' :: rest => (string? 0 rest).map textValue
    | 'r' :: '"' :: _ => (rawString? cs.tail).map textValue
    | 'r' :: '#' :: _ => (rawString? cs.tail).map textValue
    | '\'' :: rest => (character? rest).map fun (char, rest) => (.text char.toString, rest)
    | '[' :: rest => do return (.list, ← items? fuel ']' rest)
    | '\x7b' :: rest => do
      let (table, rest) ← entries? fuel rest
      return (.table table.isEmpty, rest)
    | '(' :: rest => group? fuel rest
    | cs =>
      let word := name cs
      let rest := cs.drop word.length
      if word.isEmpty then
        let number := cs.takeWhile isNumberChar
        (number? number).map (·, cs.drop number.length)
      else if word = "true".toList then some (.boolean true, rest)
      else if word = "false".toList then some (.boolean false, rest)
      else if word = "inf".toList then some (.real (.infinite false), rest)
      else if word = "NaN".toList then some (.real .nan, rest)
      else if word = "None".toList then some (.absent, rest)
      else do
        match ← skip? rest with
        | '(' :: inner =>
          if word = "Some".toList then do
            let (value, rest) ← value? fuel (← skip? inner)
            let ')' :: rest ← skip? rest | none
            return (value, rest)
          else group? fuel inner
        | rest => return (.absent, rest)

/-- A unit, a structure or a tuple, after its parenthesis. -/
def group? : Nat → List Char → Option (SettingValue × List Char)
  | 0, _ => none
  | fuel + 1, cs => do
    let cs ← skip? cs
    if let ')' :: rest := cs then return (.absent, rest)
    let word := name cs
    let isField := !word.isEmpty && ((← skip? (cs.drop word.length)).head? == some ':')
    if isField then
      let (table, rest) ← fields? fuel cs
      return (.table table.isEmpty, rest)
    else return (.list, ← items? fuel ')' cs)

/-- Passes items up to the character that ends them. -/
def items? : Nat → Char → List Char → Option (List Char)
  | 0, _, _ => none
  | fuel + 1, close, cs => do
    let cs ← skip? cs
    if cs.head? == some close then return cs.tail
    let (_, rest) ← value? fuel cs
    match ← skip? rest with
    | ',' :: rest => items? fuel close rest
    | rest => if rest.head? == some close then return rest.tail else none

/-- The entries of a map; those with a key that is no text are passed over. -/
def entries? : Nat → List Char → Option (SettingTable × List Char)
  | 0, _ => none
  | fuel + 1, cs => do
    let cs ← skip? cs
    if let '\x7d' :: rest := cs then return ([], rest)
    let (key, rest) ← value? fuel cs
    let ':' :: rest ← skip? rest | none
    let (value, rest) ← value? fuel (← skip? rest)
    let first : SettingTable :=
      match key with
      | .text name => [(name, value)]
      | _ => []
    match ← skip? rest with
    | ',' :: rest => do
      let (more, rest) ← entries? fuel rest
      return (first ++ more, rest)
    | '\x7d' :: rest => return (first, rest)
    | _ => none

/-- The fields of a structure. -/
def fields? : Nat → List Char → Option (SettingTable × List Char)
  | 0, _ => none
  | fuel + 1, cs => do
    let cs ← skip? cs
    if let ')' :: rest := cs then return ([], rest)
    let word := name cs
    if word.isEmpty then none
    let ':' :: rest ← skip? (cs.drop word.length) | none
    let (value, rest) ← value? fuel (← skip? rest)
    let field := (String.ofList word, value)
    match ← skip? rest with
    | ',' :: rest => do
      let (more, rest) ← fields? fuel rest
      return (field :: more, rest)
    | ')' :: rest => return ([field], rest)
    | _ => none

end

/-- The settings of a map, or of a structure with a name or without. -/
def parse? (cs : List Char) : Option SettingTable := do
  let fuel := cs.length + 1
  let start ← skip? cs
  let word := name start
  let (table, rest) ←
    match ← skip? (start.drop word.length) with
    | '(' :: rest => fields? fuel rest
    | '\x7b' :: rest => if word.isEmpty then entries? fuel rest else none
    | _ => none
  if (← skip? rest).isEmpty then some table else none

end SignedAdmission.Ron
