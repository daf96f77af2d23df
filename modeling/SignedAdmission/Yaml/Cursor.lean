/-! A place in a YAML text, whose line breaks are single characters. -/
namespace SignedAdmission.Yaml

def isBreak (c : Char) : Bool :=
  c == '\n' || c == '\u2028' || c == '\u2029'

def isBlank (c : Char) : Bool :=
  c == ' ' || c == '\t'

def isSpacing (c : Char) : Bool :=
  isBlank c || isBreak c

/-- Characters that may stand in a text at all. -/
def isPrintable (c : Char) : Bool :=
  let n := c.toNat
  c == '\t' || c == '\n' || c == '\r' || (0x20 ≤ n && n ≤ 0x7E) || n == 0x85 ||
    (0xA0 ≤ n && n ≤ 0xD7FF) || (0xE000 ≤ n && n ≤ 0xFFFD && n != 0xFEFF) || 0x10000 ≤ n

/-- Writes every line break that is read as a line feed as one. -/
def unifyBreaks : List Char → List Char
  | '\r' :: '\n' :: rest => '\n' :: unifyBreaks rest
  | '\r' :: rest => '\n' :: unifyBreaks rest
  | '\u0085' :: rest => '\n' :: unifyBreaks rest
  | c :: rest => c :: unifyBreaks rest
  | [] => []

structure Cursor where
  rest : List Char
  index : Nat
  line : Nat
  column : Nat

namespace Cursor

def start (text : List Char) : Cursor :=
  ⟨text, 0, 0, 0⟩

def isEnd (c : Cursor) : Bool :=
  c.rest.isEmpty

/-- Passes one character. -/
def step (c : Cursor) : Cursor :=
  match c.rest with
  | [] => c
  | char :: rest =>
    if isBreak char then ⟨rest, c.index + 1, c.line + 1, 0⟩
    else ⟨rest, c.index + 1, c.line, c.column + 1⟩

def skip : Nat → Cursor → Cursor
  | 0, c => c
  | n + 1, c => skip n c.step

/-- Goes on to a later place, given by what is left there. -/
def advanceTo (rest : List Char) (c : Cursor) : Cursor :=
  c.skip (c.rest.length - rest.length)

/-- The characters up to the first that fails a test, and the place after them. -/
def span (p : Char → Bool) (c : Cursor) : List Char × Cursor :=
  let passed := c.rest.takeWhile p
  (passed, c.skip passed.length)

def skipWhile (p : Char → Bool) (c : Cursor) : Cursor :=
  (c.span p).2

def has (c : Cursor) (char : Char) : Bool :=
  c.rest.head? == some char

/-- Whether a blank, a line break or the end comes after `n` characters. -/
def endsAfter (n : Nat) (c : Cursor) : Bool :=
  match c.rest[n]? with
  | none => true
  | some char => isSpacing char

/-- Whether the line starts with three dashes or three dots on their own. -/
def atDocumentMark (c : Cursor) : Bool :=
  c.column == 0 && (c.rest.take 3 == ['-', '-', '-'] || c.rest.take 3 == ['.', '.', '.']) &&
    c.endsAfter 3

end Cursor

end SignedAdmission.Yaml
