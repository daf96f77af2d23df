import SignedAdmission.Toml.Scalar

/-! TOML documents: lines that open tables or give keys their values. A key with dots leads through
tables, which are made on the way; a table can be opened once, and one made by dotted keys or in
braces cannot be opened at all. -/
namespace SignedAdmission.Toml

/-- How a table came to be. -/
inductive Origin where
  /-- On the way to a table below it. -/
  | passed
  | opened
  | dotted
  | braces
deriving DecidableEq, Repr

inductive Value where
  | text (value : String)
  | integer (value : Int)
  | real (value : Real64)
  | boolean (value : Bool)
  /-- A date, a time or both, in its standard form. -/
  | moment (value : String)
  | array (items : List Value)
  | table (origin : Origin) (entries : List (String × Value))
  /-- Tables that are opened one after another under the same name. -/
  | tables (items : List (List (String × Value)))
deriving Inhabited

abbrev Entries := List (String × Value)

namespace Entries

/-- Replaces the value of a key, if it can be, or gives a new key its value. -/
def update (key : String) (change : Option Value → Option Value) : Entries → Option Entries
  | [] => do return [(key, ← change none)]
  | entry :: rest =>
    if entry.1 = key then do return (key, ← change (some entry.2)) :: rest
    else do return entry :: (← update key change rest)

/-- Changes the table at a path of keys, through the last one of tables with the same name. -/
def changeAt (change : Entries → Option Entries) : List String → Entries → Option Entries
  | [], entries => change entries
  | key :: path, entries =>
    entries.update key fun
      | none => do return .table .passed (← changeAt change path [])
      | some (.table .braces _) => none
      | some (.table origin inner) => do return .table origin (← changeAt change path inner)
      | some (.tables items) =>
        match items.reverse with
        | last :: before => do
          return .tables (before.reverse ++ [← changeAt change path last])
        | [] => none
      | some _ => none

/-- Gives a dotted key its value. A table that takes it comes from dotted keys, too; one that was
only passed on the way to another may lie on the way. -/
def assign (value : Value) : List String → Entries → Option Entries
  | [], _ => none
  | [key], entries =>
    entries.update key fun
      | none => some value
      | some _ => none
  | key :: path, entries =>
    entries.update key fun
      | none => do return .table .dotted (← assign value path [])
      | some (.table origin inner) =>
        if origin = .dotted ∨ (origin = .passed ∧ 1 < path.length) then do
          return .table origin (← assign value path inner)
        else none
      | some _ => none

/-- Opens the table at the end of a path. -/
def openTable (path : List String) (key : String) (entries : Entries) : Option Entries :=
  entries.changeAt (fun entries => entries.update key fun
    | none => some (.table .opened [])
    | some (.table .passed inner) => some (.table .opened inner)
    | some _ => none) path

/-- Opens one more of the tables that share a name. -/
def openNext (path : List String) (key : String) (entries : Entries) : Option Entries :=
  entries.changeAt (fun entries => entries.update key fun
    | none => some (.tables [[]])
    | some (.tables items) => some (.tables (items ++ [[]]))
    | some _ => none) path

end Entries

def isBareChar (c : Char) : Bool :=
  c.isAlphanum || c == '_' || c == '-'

def skipBlanks (cs : List Char) : List Char := cs.dropWhile isBlank

/-- A comment up to the end of its line, if there is one. -/
def skipComment? (cs : List Char) : Option (List Char) :=
  match cs with
  | '#' :: rest =>
    let comment := rest.takeWhile fun c => c != '\n' && c != '\r'
    if comment.any isControl then none else some (rest.drop comment.length)
  | cs => some cs

/-- The end of a line, with a comment or without. -/
def lineEnd? (cs : List Char) : Option (List Char) := do
  match ← skipComment? (skipBlanks cs) with
  | [] => return []
  | rest => lineBreak? rest

/-- Blanks, comments and line breaks. -/
def skipLines? : Nat → List Char → Option (List Char)
  | 0, cs => some cs
  | fuel + 1, cs => do
    let cs ← skipComment? (skipBlanks cs)
    match lineBreak? cs with
    | some rest => skipLines? fuel rest
    | none => if cs.head? == some '\r' then none else some cs

def keyPart? (cs : List Char) : Option (String × List Char) :=
  match cs with
  | '"' :: _ => string? false cs
  | '\'' :: _ => string? false cs
  | cs =>
    let bare := cs.takeWhile isBareChar
    if bare.isEmpty then none else some (String.ofList bare, cs.drop bare.length)

/-- A key with dots; `fuel` bounds the number of its parts. -/
def key? : Nat → List Char → Option (List String × List Char)
  | 0, _ => none
  | fuel + 1, cs => do
    let (part, rest) ← keyPart? (skipBlanks cs)
    match skipBlanks rest with
    | '.' :: rest => do
      let (more, rest) ← key? fuel rest
      return (part :: more, rest)
    | rest => return ([part], rest)

def isScalarChar (c : Char) : Bool :=
  c.isAlphanum || c == '_' || c == '+' || c == '-' || c == '.' || c == ':'

/-- The characters of a number, boolean, date or time. A blank may part a date from a time. -/
def scalarSpan (cs : List Char) : List Char × List Char :=
  let first := cs.takeWhile isScalarChar
  match cs.drop first.length with
  | ' ' :: rest =>
    if (date? first).any (·.2.isEmpty) && rest.head?.any Char.isDigit then
      let second := rest.takeWhile isScalarChar
      (first ++ ' ' :: second, rest.drop second.length)
    else (first, ' ' :: rest)
  | rest => (first, rest)

def scalar? (cs : List Char) : Option (Value × List Char) := do
  let (word, rest) := scalarSpan cs
  let value ←
    if word = "true".toList then some (.boolean true)
    else if word = "false".toList then some (.boolean false)
    else
      match integer? word, real? word, moment? word with
      | some i, _, _ => some (.integer i)
      | none, some x, _ => some (.real x)
      | none, none, some text => some (.moment (String.ofList text))
      | none, none, none => none
  return (value, rest)

mutual

def value? : Nat → List Char → Option (Value × List Char)
  | 0, _ => none
  | fuel + 1, cs =>
    match cs with
    | '[' :: rest => do
      let (items, rest) ← items? fuel rest
      return (.array items, rest)
    | '\x7b' :: rest => do
      let (entries, rest) ← inlineEntries? fuel true [] rest
      return (.table .braces entries, rest)
    | '"' :: _ => do
      let (text, rest) ← string? true cs
      return (.text text, rest)
    | '\'' :: _ => do
      let (text, rest) ← string? true cs
      return (.text text, rest)
    | cs => scalar? cs

/-- The items of an array up to its end; a comma may follow the last. -/
def items? : Nat → List Char → Option (List Value × List Char)
  | 0, _ => none
  | fuel + 1, cs => do
    let cs ← skipLines? cs.length cs
    if let ']' :: rest := cs then return ([], rest)
    let (first, rest) ← value? fuel cs
    match ← skipLines? rest.length rest with
    | ',' :: rest => do
      let (more, rest) ← items? fuel rest
      return (first :: more, rest)
    | ']' :: rest => return ([first], rest)
    | _ => none

/-- The entries of a table in braces, which stand on one line. -/
def inlineEntries? : Nat → (mayClose : Bool) → Entries → List Char → Option (Entries × List Char)
  | 0, _, _, _ => none
  | fuel + 1, mayClose, entries, cs => do
    let cs := skipBlanks cs
    if mayClose then
      if let '\x7d' :: rest := cs then return (entries, rest)
    let (key, rest) ← key? cs.length cs
    let '=' :: rest := rest | none
    let (value, rest) ← value? fuel (skipBlanks rest)
    let entries ← entries.assign value key
    match skipBlanks rest with
    | ',' :: rest => inlineEntries? fuel false entries rest
    | '\x7d' :: rest => return (entries, rest)
    | _ => none

end

/-- What is read so far: the entries, and the path of the table that is open. -/
structure State where
  entries : Entries
  current : List String

/-- One line that is neither empty nor a comment. -/
def State.line? (s : State) (cs : List Char) : Option (State × List Char) := do
  match cs with
  | '[' :: '[' :: rest => do
    let (path, rest) ← key? rest.length rest
    let ']' :: ']' :: rest := rest | none
    let entries ← s.entries.openNext path.dropLast (path.getLastD "")
    return (⟨entries, path⟩, ← lineEnd? rest)
  | '[' :: rest => do
    let (path, rest) ← key? rest.length rest
    let ']' :: rest := rest | none
    let entries ← s.entries.openTable path.dropLast (path.getLastD "")
    return (⟨entries, path⟩, ← lineEnd? rest)
  | cs => do
    let (key, rest) ← key? cs.length cs
    let '=' :: rest := rest | none
    let rest := skipBlanks rest
    let (value, rest) ← value? (rest.length + 1) rest
    let entries ← s.entries.changeAt (·.assign value key) s.current
    return (⟨entries, s.current⟩, ← lineEnd? rest)

def State.lines? : Nat → State → List Char → Option State
  | 0, _, _ => none
  | fuel + 1, s, cs => do
    match ← skipLines? cs.length cs with
    | [] => return s
    | cs => do
      let (s, rest) ← s.line? cs
      s.lines? fuel rest

/-- The entries of a document, none if it is malformed. -/
def document? (text : List Char) : Option Entries := do
  return (← State.lines? (text.length + 1) ⟨[], []⟩ text).entries

end SignedAdmission.Toml
