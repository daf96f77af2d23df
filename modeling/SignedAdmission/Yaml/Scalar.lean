import SignedAdmission.Json.Token
import SignedAdmission.Yaml.Cursor

/-! The texts of YAML scalars: plain, quoted, and in blocks of lines. Line breaks in plain and
quoted scalars are folded: a single one becomes a space, and of several the first is dropped. -/
namespace SignedAdmission.Yaml

/-- Blanks and line breaks between two words of a scalar. -/
structure Gap where
  blanks : List Char
  breaks : List Char

namespace Gap

def none : Gap := ⟨[], []⟩

def ofRun (run : List Char) : Gap :=
  ⟨run.takeWhile isBlank, run.filter isBreak⟩

def foldBreaks : List Char → List Char
  | ['\n'] => [' ']
  | '\n' :: more => more
  | breaks => breaks

def text (gap : Gap) : List Char :=
  if gap.breaks.isEmpty then gap.blanks else foldBreaks gap.breaks

end Gap

/-- Whether a tab stands before column `indent` on a line that starts inside the run; `column` is
known from the first line break on. -/
def tabInIndent (indent : Int) : Option Nat → List Char → Bool
  | _, [] => false
  | column, c :: rest =>
    if isBreak c then tabInIndent indent (some 0) rest
    else
      (c == '\t' && column.any fun (k : Nat) => (k : Int) < indent) ||
        tabInIndent indent (column.map (· + 1)) rest

/-- What a scanner found, the place after it, and whether a line break was passed last. -/
structure Scanned where
  text : List Char
  cursor : Cursor
  newLine : Bool

def isFlowMark (c : Char) : Bool :=
  c == ',' || c == '[' || c == ']' || c == '\x7b' || c == '\x7d'

/-- The characters of a plain scalar up to a blank, a colon that ends a key, or, inside brackets, a
mark. A colon right before a mark is refused there. -/
def plainWord? (flow : Bool) : List Char → Option (List Char)
  | [] => some []
  | c :: rest =>
    if isSpacing c then some []
    else if c == ':' && rest.head?.all isSpacing then some []
    else if flow && c == ':' && rest.head?.any fun d => isFlowMark d || d == '?' then none
    else if flow && isFlowMark c then some []
    else (c :: ·) <$> plainWord? flow rest

/-- Reads on after a gap. `indent` is the least column of a continuation line. -/
def plainFrom (flow : Bool) (indent : Int) : Nat → Gap → Cursor → Option Scanned
  | 0, _, _ => none
  | fuel + 1, gap, c =>
    if c.atDocumentMark || c.has '#' then some ⟨[], c, !gap.breaks.isEmpty⟩
    else do
      let word ← plainWord? flow c.rest
      let text := if word.isEmpty then [] else gap.text ++ word
      let after := c.skip word.length
      let (run, next) := after.span isSpacing
      if run.isEmpty then
        return ⟨text, after, word.isEmpty && !gap.breaks.isEmpty⟩
      if tabInIndent indent none run then none
      let between := Gap.ofRun run
      if !flow && (next.column : Int) < indent then
        return ⟨text, next, !between.breaks.isEmpty⟩
      let more ← plainFrom flow indent fuel between next
      return { more with text := text ++ more.text }

def plain? (flow : Bool) (indent : Int) (c : Cursor) : Option Scanned :=
  plainFrom flow indent (c.rest.length + 1) .none c

def escapes : List (Char × Char) :=
  [('0', '\x00'), ('a', '\x07'), ('b', '\x08'), ('t', '\t'), ('\t', '\t'), ('n', '\n'),
    ('v', '\x0b'), ('f', '\x0c'), ('r', '\r'), ('e', '\x1b'), (' ', ' '), ('"', '"'), ('/', '/'),
    ('\\', '\\'), ('N', '\u0085'), ('_', '\u00a0'), ('L', '\u2028'), ('P', '\u2029')]

/-- How many hexadecimal digits follow the letter of an escape. -/
def hexCount : Char → Option Nat
  | 'x' => some 2
  | 'u' => some 4
  | 'U' => some 8
  | _ => none

/-- The character of a code point in hexadecimal digits. -/
def hexChar? (digits : List Char) : Option Char := do
  let values ← digits.mapM Json.Token.hexValue?
  let code := values.foldl (fun n d => 16 * n + d) 0
  if code ≤ 0x10FFFF && !(0xD800 ≤ code && code ≤ 0xDFFF) then some (Char.ofNat code) else none

/-- One escape after its backslash, and how many characters it takes. -/
def escape? (e : Char) (rest : List Char) : Option (Char × Nat) :=
  match hexCount e with
  | some count =>
    if (rest.take count).length = count then
      (hexChar? (rest.take count)).map (·, count + 1)
    else none
  | none => (escapes.lookup e).map (·, 1)

/-- A stretch of a quoted scalar without blanks. -/
structure QuotedWord where
  text : List Char
  rest : List Char
  /-- Whether it ends with an escaped line break. -/
  escapedBreak : Bool

/-- Reads up to a blank, a line break or the closing quote; `skip` characters belong to an escape
that is read already. -/
def quotedWord? (double : Bool) : Nat → List Char → Option QuotedWord
  | _, [] => some ⟨[], [], false⟩
  | skip + 1, _ :: rest => quotedWord? double skip rest
  | 0, c :: rest =>
    let stop : QuotedWord := ⟨[], c :: rest, false⟩
    let keep (char : Char) (skip : Nat) : Option QuotedWord := do
      let word ← quotedWord? double skip rest
      return { word with text := char :: word.text }
    if isSpacing c then some stop
    else if !double && c == '\'' then
      if rest.head? == some '\'' then keep '\'' 1 else some stop
    else if double && c == '"' then some stop
    else if double && c == '\\' then
      match rest with
      | [] => none
      | e :: more =>
        if isBreak e then some ⟨[], more, true⟩
        else
          match escape? e more with
          | some (char, count) => keep char count
          | none => none
    else keep c 0

def quotedFrom (double : Bool) : Nat → Cursor → Option (List Char × Cursor)
  | 0, _ => none
  | fuel + 1, c =>
    if c.atDocumentMark || c.isEnd then none
    else do
      let word ← quotedWord? double 0 c.rest
      let after := c.advanceTo word.rest
      if after.has (if double then '"' else '\'') then return (word.text, after.step)
      let (run, next) := after.span isSpacing
      let gap := if word.escapedBreak then run.filter isBreak else (Gap.ofRun run).text
      let (more, last) ← quotedFrom double fuel next
      return (word.text ++ gap ++ more, last)

/-- Reads a quoted scalar from its opening quote on. -/
def quoted? (double : Bool) (c : Cursor) : Option (List Char × Cursor) :=
  quotedFrom double (c.rest.length + 1) c.step

/-- What becomes of the line breaks at the end of a block. -/
inductive Chomping where
  | strip
  | clip
  | keep
deriving DecidableEq, Repr

def chomping? : Char → Option Chomping
  | '-' => some .strip
  | '+' => some .keep
  | _ => none

def increment? (c : Char) : Option Nat :=
  if '1' ≤ c ∧ c ≤ '9' then some (c.toNat - '0'.toNat) else none

structure BlockHeader where
  chomping : Chomping
  /-- How far the block is indented beyond its parent, if the header says so. -/
  increment : Option Nat

/-- The indicators after the mark of a block, in either order. -/
def blockHeader (rest : List Char) : BlockHeader × Nat :=
  let first := rest[0]?
  let second := rest[1]?
  match first.bind chomping?, first.bind increment? with
  | some chomping, _ =>
    match second.bind increment? with
    | some n => (⟨chomping, some n⟩, 2)
    | none => (⟨chomping, none⟩, 1)
  | none, some n =>
    match second.bind chomping? with
    | some chomping => (⟨chomping, some n⟩, 2)
    | none => (⟨.clip, some n⟩, 1)
  | none, none => (⟨.clip, none⟩, 0)

/-- Passes empty lines and the indentation of the next line. `indent` is the indentation if it is
known; `deepest` is the column reached so far. -/
def emptyLines (indent : Option Nat) : Nat → Nat → Cursor → Option (List Char × Nat × Cursor)
  | 0, _, _ => none
  | fuel + 1, deepest, c =>
    let spaces := (c.rest.takeWhile (· == ' ')).length
    let c := c.skip (match indent with | some n => min spaces (n - c.column) | none => spaces)
    let deepest := max deepest c.column
    if c.has '\t' && indent.all (c.column < ·) then none
    else
      match c.rest with
      | char :: _ =>
        if isBreak char then do
          let (breaks, deepest, last) ← emptyLines indent fuel deepest c.step
          return (char :: breaks, deepest, last)
        else some ([], deepest, c)
      | [] => some ([], deepest, c)

/-- The line breaks that separate a line from the one before, as they are written into the text.
Between two lines of a folded block that start with no blank they are folded. -/
def lineSeparator (literal blankBefore blankNow : Bool) (breaks : List Char) : List Char :=
  if !literal && !blankBefore && !blankNow && breaks.head? == some '\n' then
    Gap.foldBreaks breaks
  else breaks

/-- Reads lines of a block from the first one on; `breaks` are those not written yet, and the first
of them ended a line if there was one before. -/
def blockLines (literal : Bool) (indent : Nat) :
    Nat → (blankBefore : Bool) → (ended : List Char) → (empty : List Char) → Cursor →
      Option (List Char × List Char × List Char × Cursor)
  | 0, _, _, _, _ => none
  | fuel + 1, blankBefore, ended, empty, c =>
    if c.column != indent || c.isEnd then some ([], ended, empty, c)
    else do
      let blankNow := c.rest.head?.any isBlank
      let separator :=
        if ended.isEmpty then empty
        else lineSeparator literal blankBefore blankNow (ended ++ empty)
      let (line, after) := c.span (!isBreak ·)
      let ended := after.rest.take 1
      let (empty, _, next) ← emptyLines (some indent) (after.rest.length + 1) 0 after.step
      let (more, ended, empty, last) ← blockLines literal indent fuel blankNow ended empty next
      return (separator ++ line ++ more, ended, empty, last)

/-- Reads a block from its mark on. `parent` is the indentation of what the block is part of. -/
def block? (literal : Bool) (parent : Int) (c : Cursor) : Option (List Char × Cursor) := do
  let (header, count) := blockHeader c.step.rest
  let c := (c.step.skip count).skipWhile isBlank
  let c := if c.has '#' then c.skipWhile (!isBreak ·) else c
  if !(c.isEnd || c.rest.head?.any isBreak) then none
  let c := c.step
  let known := header.increment.map fun n => (max parent 0).toNat + n
  let (empty, deepest, c) ← emptyLines known (c.rest.length + 1) 0 c
  let indent := known.getD (max (max deepest (parent + 1).toNat) 1)
  let (text, ended, empty, c) ← blockLines literal indent (c.rest.length + 1) false [] empty c
  let tail :=
    match header.chomping with
    | .strip => []
    | .clip => ended
    | .keep => ended ++ empty
  return (text ++ tail, c)

end SignedAdmission.Yaml
