import SignedAdmission.Yaml.Scalar

/-! The tokens of YAML text. Indentation opens and closes block collections, and a scalar turns out
to be a key when its colon is met: the token that says so is put in front of it then. -/
namespace SignedAdmission.Yaml

inductive Token where
  | version
  | tagStart (handle start : String)
  | documentStart
  | documentEnd
  | streamEnd
  | openBlockSequence
  | openBlockMapping
  | closeBlock
  | openSequence
  | closeSequence
  | openMapping
  | closeMapping
  | item
  | comma
  | key
  | value
  | nodeAlias (name : String)
  | anchor (name : String)
  | tag (handle suffix : String)
  | scalar (plain : Bool) (text : String)
deriving DecidableEq, Repr

/-- A place where a key may have started. -/
structure PossibleKey where
  /-- How many tokens came before. -/
  tokens : Nat
  index : Nat
  line : Nat
  column : Nat
  /-- Whether nothing but a key can stand there. -/
  required : Bool

structure Scanner where
  cursor : Cursor
  tokens : Array Token
  /-- The column of the innermost block collection, -1 outside of all. -/
  indent : Int
  outerIndents : List Int
  keyAllowed : Bool
  /-- The possible key of each open bracket, innermost first, and last the one outside of all. -/
  keys : List (Option PossibleKey)

namespace Scanner

def start (text : List Char) : Scanner :=
  { cursor := .start text, tokens := #[], indent := -1, outerIndents := [], keyAllowed := true
    keys := [none] }

def inFlow (s : Scanner) : Bool :=
  1 < s.keys.length

def emit (s : Scanner) (token : Token) : Scanner :=
  { s with tokens := s.tokens.push token }

/-- Passes `count` characters that make up a token. -/
def emitPassed (s : Scanner) (count : Nat) (token : Token) : Scanner :=
  { s.emit token with cursor := s.cursor.skip count }

def allowKey (s : Scanner) (allowed : Bool) : Scanner :=
  { s with keyAllowed := allowed }

/-- Gives up the innermost possible key, none if it is required. -/
def dropKey? (s : Scanner) : Option Scanner :=
  match s.keys with
  | some key :: outer => if key.required then none else some { s with keys := none :: outer }
  | _ => some s

/-- A key may start here. -/
def noteKey? (s : Scanner) : Option Scanner := do
  if !s.keyAllowed then return s
  let s ← s.dropKey?
  let key : PossibleKey :=
    { tokens := s.tokens.size, index := s.cursor.index, line := s.cursor.line
      column := s.cursor.column, required := !s.inFlow && s.indent == (s.cursor.column : Int) }
  return { s with keys := some key :: s.keys.tail }

/-- A key stands on one line and has at most 1024 characters. -/
def PossibleKey.isStale (key : PossibleKey) (c : Cursor) : Bool :=
  key.line < c.line || key.index + 1024 < c.index

def dropStaleKeys? (s : Scanner) : Option Scanner := do
  let keys ← s.keys.mapM fun
    | some key =>
      if PossibleKey.isStale key s.cursor then (if key.required then none else some none)
      else some (some key)
    | none => some none
  return { s with keys := keys }

/-- Opens a block collection at a column that lies deeper; its token goes to a place given. -/
def indentTo (s : Scanner) (column : Nat) (place : Nat) (token : Token) : Scanner :=
  if s.inFlow || (column : Int) ≤ s.indent then s
  else
    { s with
      indent := column
      outerIndents := s.indent :: s.outerIndents
      tokens := s.tokens.insertIdxIfInBounds place token }

/-- Closes the block collections that lie deeper than a column. -/
def closeFrom (column : Int) (indent : Int) (tokens : Array Token) :
    List Int → Int × List Int × Array Token
  | [] => (indent, [], tokens)
  | outer :: more =>
    if column < indent then closeFrom column outer (tokens.push .closeBlock) more
    else (indent, outer :: more, tokens)

def closeTo (s : Scanner) (column : Int) : Scanner :=
  if s.inFlow then s
  else
    let (indent, outer, tokens) := closeFrom column s.indent s.tokens s.outerIndents
    { s with indent := indent, outerIndents := outer, tokens := tokens }

/-- Passes blanks, comments and line breaks. Tabs count as blanks only where no key may start. -/
def passSpacing : Nat → Scanner → Scanner
  | 0, s => s
  | fuel + 1, s =>
    let tabs := s.inFlow || !s.keyAllowed
    let c := s.cursor.skipWhile fun char => char == ' ' || (tabs && char == '\t')
    let c := if c.has '#' then c.skipWhile (!isBreak ·) else c
    if c.rest.head?.any isBreak then
      passSpacing fuel { s with cursor := c.step, keyAllowed := s.keyAllowed || !s.inFlow }
    else { s with cursor := c }

def isNameChar (c : Char) : Bool :=
  c.isAlphanum || c == '_' || c == '-'

/-- The name of an anchor or alias, after its mark. -/
def name? (c : Cursor) : Option (String × Cursor) :=
  let (name, after) := c.step.span isNameChar
  let ends := after.endsAfter 0 ||
    after.rest.head?.any fun d =>
      ['?', ':', ',', ']', '\x7d', '%', '@', '\x60'].contains d
  if name.isEmpty || !ends then none else some (String.ofList name, after)

def isTagChar (verbatim : Bool) (c : Char) : Bool :=
  isNameChar c || ";/?:@&=+$.%!~*'()".toList.contains c ||
    (verbatim && (c == ',' || c == '[' || c == ']'))

/-- Undoes the percent escapes of a tag. -/
def unescapeTag? : List Char → Option (List UInt8)
  | '%' :: a :: b :: rest => do
    let byte := 16 * (← Json.Token.hexValue? a) + (← Json.Token.hexValue? b)
    return UInt8.ofNat byte :: (← unescapeTag? rest)
  | '%' :: _ => none
  | c :: rest => return c.toString.toUTF8.toList ++ (← unescapeTag? rest)
  | [] => some []

def tagText? (cs : List Char) : Option String := do
  String.fromUTF8? (← unescapeTag? cs).toByteArray

/-- A handle is an exclamation mark, or a name between two of them. -/
def splitTag (cs : List Char) : List Char × List Char :=
  let name := cs.tail.takeWhile isNameChar
  match cs.drop (1 + name.length) with
  | '!' :: suffix => (cs.take (2 + name.length), suffix)
  | _ => (['!'], cs.tail)

/-- A tag: one in angle brackets is taken as it is, and a mark on its own is no handle. -/
def tag? (flow : Bool) (c : Cursor) : Option (Token × Cursor) := do
  let (token, after) ←
    match c.rest with
    | '!' :: '<' :: _ => do
      let (text, after) := (c.skip 2).span (isTagChar true)
      if text.isEmpty || !after.has '>' then none
      pure (Token.tag "" (← tagText? text), after.step)
    | _ => do
      let (text, after) := c.span (isTagChar false)
      let (handle, suffix) := splitTag text
      if suffix.isEmpty && handle.length != 1 then none
      let meaning ← tagText? suffix
      pure (if suffix.isEmpty then .tag "" "!" else .tag (String.ofList handle) meaning, after)
  if after.endsAfter 0 || (flow && after.has ',') then return (token, after) else none

/-- The end of a line with nothing but a comment on it. -/
def lineEnd? (c : Cursor) : Option Cursor :=
  let c := c.skipWhile isBlank
  let c := if c.has '#' then c.skipWhile (!isBreak ·) else c
  if c.isEnd || c.rest.head?.any isBreak then some c.step else none

/-- A directive is `%YAML 1.1`, `%YAML 1.2`, or one that gives a tag handle its meaning. -/
def directive? (c : Cursor) : Option (Token × Cursor) := do
  let (name, after) := c.step.span isNameChar
  if name = "YAML".toList then
    let (number, after) := (after.skipWhile isBlank).span fun d => d.isDigit || d == '.'
    if number != "1.1".toList && number != "1.2".toList then none
    return (.version, ← lineEnd? after)
  else if name = "TAG".toList then
    let (handle, after) := (after.skipWhile isBlank).span fun d => d == '!' || isNameChar d
    let (start, last) := (after.skipWhile isBlank).span (isTagChar true)
    let wellFormed := handle.head? == some '!' && handle.getLast? == some '!' &&
      after.rest.head?.any isBlank && !start.isEmpty
    if !wellFormed then none
    return (.tagStart (String.ofList handle) (← tagText? start), ← lineEnd? last)
  else none

/-- An item of a block sequence. -/
def item? (s : Scanner) : Option Scanner := do
  if !s.inFlow && !s.keyAllowed then none
  let s := s.indentTo s.cursor.column s.tokens.size .openBlockSequence
  return ((← s.dropKey?).allowKey true).emitPassed 1 .item

/-- A key with a mark of its own. -/
def key? (s : Scanner) : Option Scanner := do
  if !s.inFlow && !s.keyAllowed then none
  let s := s.indentTo s.cursor.column s.tokens.size .openBlockMapping
  return ((← s.dropKey?).allowKey !s.inFlow).emitPassed 1 .key

/-- The value of a key, which was a possible key so far or has a mark of its own. -/
def value? (s : Scanner) : Option Scanner :=
  match s.keys with
  | some key :: outer =>
    let s :=
      { s with tokens := s.tokens.insertIdxIfInBounds key.tokens .key, keys := none :: outer }
    let s := s.indentTo key.column key.tokens .openBlockMapping
    some ((s.allowKey false).emitPassed 1 .value)
  | _ =>
    if s.inFlow then some ((s.allowKey false).emitPassed 1 .value)
    else if s.keyAllowed then
      let s := s.indentTo s.cursor.column s.tokens.size .openBlockMapping
      some ((s.allowKey true).emitPassed 1 .value)
    else none

def open? (s : Scanner) (token : Token) : Option Scanner := do
  let s ← s.noteKey?
  return ({ s with keys := none :: s.keys }.allowKey true).emitPassed 1 token

def close? (s : Scanner) (token : Token) : Option Scanner := do
  let s ← s.dropKey?
  let keys := if s.inFlow then s.keys.tail else s.keys
  return ({ s with keys := keys }.allowKey false).emitPassed 1 token

/-- A token that may be part of a key and is read from its first character on. -/
def keyPart? (s : Scanner) (read : Cursor → Option (Token × Cursor)) : Option Scanner := do
  let s ← s.noteKey?
  let (token, after) ← read s.cursor
  return { (s.allowKey false).emit token with cursor := after }

def quotedScalar? (s : Scanner) (double : Bool) : Option Scanner :=
  s.keyPart? fun c => do
    let (text, after) ← quoted? double c
    return (.scalar false (String.ofList text), after)

def plainScalar? (s : Scanner) : Option Scanner := do
  let s ← s.noteKey?
  let scanned ← plain? s.inFlow (s.indent + 1) s.cursor
  return { (s.allowKey scanned.newLine).emit (.scalar true (String.ofList scanned.text)) with
    cursor := scanned.cursor }

def blockScalar? (s : Scanner) (literal : Bool) : Option Scanner := do
  let s ← s.dropKey?
  let (text, after) ← block? literal s.indent s.cursor
  return { (s.allowKey true).emit (.scalar false (String.ofList text)) with cursor := after }

/-- Leaves all block collections, as a document does that begins or ends. -/
def leaveDocument? (s : Scanner) : Option Scanner := do
  return (← (s.closeTo (-1)).dropKey?).allowKey false

def documentMark? (s : Scanner) (token : Token) : Option Scanner := do
  return (← s.leaveDocument?).emitPassed 3 token

def isIndicator (c : Char) : Bool :=
  "-?:,[]{}#&*!|>'\"%@`".toList.contains c

/-- Characters that may start a plain scalar, given what follows them. -/
def startsPlain (s : Scanner) (c : Char) : Bool :=
  !(isIndicator c || isBlank c) ||
    (c == '-' && !(s.cursor.rest[1]?.any isBlank)) ||
    (!s.inFlow && (c == '?' || c == ':') && !s.cursor.endsAfter 1)

/-- Reads the token at the cursor. -/
def next? (s : Scanner) (c : Char) : Option Scanner :=
  let lineStart := s.cursor.column == 0
  let alone := s.cursor.endsAfter 1
  if lineStart && c == '%' then do
    let s ← s.leaveDocument?
    let (token, after) ← directive? s.cursor
    return { s.emit token with cursor := after }
  else if s.cursor.atDocumentMark then
    s.documentMark? (if c == '-' then .documentStart else .documentEnd)
  else if c == '[' then s.open? .openSequence
  else if c == '\x7b' then s.open? .openMapping
  else if c == ']' then s.close? .closeSequence
  else if c == '\x7d' then s.close? .closeMapping
  else if c == ',' then do return ((← s.dropKey?).allowKey true).emitPassed 1 .comma
  else if c == '-' && alone then s.item?
  else if c == '?' && (s.inFlow || alone) then s.key?
  else if c == ':' && (s.inFlow || alone) then s.value?
  else if c == '*' then
    s.keyPart? fun c => (name? c).map fun (name, after) => (.nodeAlias name, after)
  else if c == '&' then
    s.keyPart? fun c => (name? c).map fun (name, after) => (.anchor name, after)
  else if c == '!' then s.keyPart? (tag? s.inFlow)
  else if c == '|' && !s.inFlow then s.blockScalar? true
  else if c == '>' && !s.inFlow then s.blockScalar? false
  else if c == '\'' then s.quotedScalar? false
  else if c == '"' then s.quotedScalar? true
  else if s.startsPlain c then s.plainScalar?
  else none

/-- Reads tokens to the end of the text; `fuel` bounds their number. -/
def run : Nat → Scanner → Option (List Token)
  | 0, _ => none
  | fuel + 1, s => do
    let s := passSpacing (s.cursor.rest.length + 1) s
    let s ← s.dropStaleKeys?
    match s.cursor.rest with
    | [] => return ((← s.leaveDocument?).emit .streamEnd).tokens.toList
    | c :: _ => run fuel (← (s.closeTo s.cursor.column).next? c)

end Scanner

/-- The tokens of a text, none if it is malformed. A byte order mark may come first. -/
def Token.scan? (text : List Char) : Option (List Token) :=
  let text :=
    match text with
    | '\uFEFF' :: rest => rest
    | text => text
  if text.all isPrintable then
    let text := unifyBreaks text
    (Scanner.start text).run (text.length + 1)
  else none

end SignedAdmission.Yaml
