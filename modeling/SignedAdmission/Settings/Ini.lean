import SignedAdmission.Json.Token
import SignedAdmission.Settings.Value
import SignedAdmission.Text.Space

/-! Settings in sections of keys and values, where every value is a text. Keys in front of all
sections are settings themselves. -/
namespace SignedAdmission.Ini

/-- The character of an escape, after its backslash, and how many characters it takes. -/
def escape? : List Char → Option (Char × Nat)
  | '0' :: _ => some ('\x00', 1)
  | 'a' :: _ => some ('\x07', 1)
  | 'b' :: _ => some ('\x08', 1)
  | 't' :: _ => some ('\t', 1)
  | 'r' :: _ => some ('\r', 1)
  | 'n' :: _ => some ('\n', 1)
  | 'x' :: a :: b :: c :: d :: _ => do
    let code ← Json.Token.hex4? a b c d
    if 0xD800 ≤ code && code ≤ 0xDFFF then none else some (Char.ofNat code, 5)
  | 'x' :: _ => none
  | c :: _ => some (c, 1)
  | [] => none

/-- A text up to one of the characters that end it, which is left over. `mayEnd` says whether the
end of the input ends it, too. -/
def until? (ends : List Char) (mayEnd : Bool) :
    Nat → List Char → Option (List Char × List Char)
  | _, [] => if mayEnd then some ([], []) else none
  | skip + 1, _ :: rest => until? ends mayEnd skip rest
  | 0, c :: rest =>
    if ends.contains c then some ([], c :: rest)
    else do
      let (char, skip) ← if c = '\\' then escape? rest else some (c, 0)
      let (text, rest) ← until? ends mayEnd skip rest
      return (char :: text, rest)

def line? (cs : List Char) : Option (List Char × List Char) :=
  until? ['\n', '\r'] true 0 cs

/-- A value, with or without quotes around its start. -/
def value? (cs : List Char) : Option (List Char × List Char) :=
  match cs.dropWhile fun c => c == ' ' || c == '\t' with
  | '"' :: rest => do
    let (text, rest) ← until? ['"'] false 0 rest
    let (more, rest) ← line? rest.tail
    return (text ++ more, rest)
  | '\'' :: rest => do
    let (text, rest) ← until? ['\''] false 0 rest
    let (more, rest) ← line? rest.tail
    return (text ++ more, rest)
  | cs => line? cs

def trimmed (cs : List Char) : String :=
  String.ofList (Text.trim cs)

/-- Where the reading is: the section, if there is one, and whether it holds anything. -/
structure State where
  table : SettingTable
  current : Option String

def State.put (s : State) (key value : String) : State :=
  match s.current with
  | none => { s with table := s.table ++ [(key, .text value)] }
  | some name => { s with table := s.table.put name (.table false) }

/-- Comments stand at the start of a line. -/
def entries? : Nat → (lineStart : Bool) → State → List Char → Option SettingTable
  | 0, _, _, _ => none
  | _ + 1, _, s, [] => some s.table
  | fuel + 1, lineStart, s, c :: rest =>
    if Text.isSpace c then entries? fuel (c == '\n') s rest
    else if c == ';' || c == '#' then
      if lineStart then entries? fuel false s (rest.dropWhile (· != '\n')) else none
    else if c == '[' then do
      let (name, rest) ← until? [']'] false 0 rest
      let name := trimmed name
      entries? fuel false
        { table := if s.table.any (·.1 == name) then s.table else s.table ++ [(name, .table true)]
          current := some name } rest.tail
    else do
      let (key, rest) ← until? ['=', ':'] false 0 (c :: rest)
      let key := trimmed key
      if key.isEmpty then none
      let (value, rest) ← value? rest.tail
      entries? fuel false (s.put key (trimmed value)) rest

def parse? (cs : List Char) : Option SettingTable :=
  entries? (cs.length + 1) true ⟨[], none⟩ cs

end SignedAdmission.Ini
