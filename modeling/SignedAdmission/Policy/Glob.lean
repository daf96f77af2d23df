import SignedAdmission.Text.Split

/-! Globs: `*` stands for any text, `?` for any character, and a bracket for one character of a set
or, after `!` or `^`, outside of it. -/
namespace SignedAdmission.Glob

inductive Item where
  | char (c : Char)
  | range (low high : Char)
deriving DecidableEq, Repr

def Item.contains (c : Char) : Item → Bool
  | .char d => c == d
  | .range low high => low ≤ c && c ≤ high

/-- How a list of items is combined with the set before it. -/
inductive SetOp where
  | intersection
  | difference
  | symmetricDifference
deriving DecidableEq, Repr

def SetOp.apply : SetOp → Bool → Bool → Bool
  | .intersection, a, b => a && b
  | .difference, a, b => a && !b
  | .symmetricDifference, a, b => a != b

structure Bracket where
  negated : Bool
  items : List Item
  /-- Applied from left to right. -/
  operations : List (SetOp × List Item)
deriving DecidableEq, Repr

def Bracket.contains (bracket : Bracket) (c : Char) : Bool :=
  let listed := bracket.operations.foldl
    (fun found (op, items) => op.apply found (items.any (·.contains c)))
    (bracket.items.any (·.contains c))
  listed != bracket.negated

inductive Piece where
  | char (c : Char)
  | anyChar
  | anyText
  | bracket (b : Bracket)
deriving DecidableEq, Repr

/-- The text of a bracket whose opening has been read, and what follows its end. A closing bracket
in first place belongs to the text. -/
def bracketText? (cs : List Char) : Option (List Char × List Char) :=
  let (start, rest) :=
    match cs with
    | '!' :: ']' :: rest => (['!', ']'], rest)
    | '!' :: rest => (['!'], rest)
    | ']' :: rest => ([']'], rest)
    | rest => ([], rest)
  match Text.cut ']' rest with
  | (text, some rest) => some (start ++ text, rest)
  | (_, none) => none

/-- The items up to the end or the next operator. A hyphen between two characters makes a range,
which must not run backwards; a hyphen before the end or before another hyphen does not. -/
def items? : List Char → Option (List Item × List (SetOp × List Item))
  | [] => some ([], [])
  | '&' :: '&' :: rest => operation .intersection (items? rest)
  | '-' :: '-' :: rest => operation .difference (items? rest)
  | '~' :: '~' :: rest => operation .symmetricDifference (items? rest)
  | low :: '-' :: '-' :: rest => item (.char low) (operation .difference (items? rest))
  | low :: '-' :: high :: rest =>
    if low ≤ high then item (.range low high) (items? rest) else none
  | c :: rest => item (.char c) (items? rest)
where
  operation (op : SetOp) (rest : Option (List Item × List (SetOp × List Item))) :
      Option (List Item × List (SetOp × List Item)) :=
    rest.map fun (items, operations) => ([], (op, items) :: operations)
  item (i : Item) (rest : Option (List Item × List (SetOp × List Item))) :
      Option (List Item × List (SetOp × List Item)) :=
    rest.map fun (items, operations) => (i :: items, operations)

/-- Hyphens in first place, or else a closing bracket in first place, stand for themselves. -/
def leading (cs : List Char) : List Char × List Char :=
  match cs with
  | ']' :: rest => ([']'], rest)
  | cs => (cs.takeWhile (· == '-'), cs.dropWhile (· == '-'))

/-- The set that a bracket's text describes; there is none for a lone `^` or a range that runs
backwards. -/
def bracket? (text : List Char) : Option Bracket := do
  let (negated, listed) :=
    match text with
    | '!' :: rest => (true, rest)
    | '^' :: rest => (true, rest)
    | rest => (false, rest)
  guard (!listed.isEmpty)
  let (first, rest) := leading listed
  let (items, operations) ← items? rest
  return ⟨negated, first.map .char ++ items, operations⟩

/-- `fuel` bounds the number of pieces. A bracket that does not end is an ordinary character. -/
def piecesWith : Nat → List Char → Option (List Piece)
  | _, [] => some []
  | 0, _ :: _ => none
  | fuel + 1, '*' :: rest => (piecesWith fuel rest).map (.anyText :: ·)
  | fuel + 1, '?' :: rest => (piecesWith fuel rest).map (.anyChar :: ·)
  | fuel + 1, '[' :: rest =>
    match bracketText? rest with
    | none => (piecesWith fuel rest).map (.char '[' :: ·)
    | some (text, rest) => do
      let bracket ← bracket? text
      return .bracket bracket :: (← piecesWith fuel rest)
  | fuel + 1, c :: rest => (piecesWith fuel rest).map (.char c :: ·)

/-- The pieces of a pattern, none if one of its brackets describes no set. -/
def pieces? (pattern : List Char) : Option (List Piece) :=
  piecesWith pattern.length pattern

def Piece.accepts : Piece → Char → Bool
  | .char d, c => c == d
  | .anyChar, _ => true
  | .anyText, _ => true
  | .bracket b, c => b.contains c

/-- For each suffix of a text, the longest first, whether pieces match all of it, given the answers
for the pieces after the first one. -/
def extend (piece : Piece) : List Char → List Bool → List Bool
  | [], rest => if piece = .anyText then rest else rest.map fun _ => false
  | c :: cs, rest =>
    let shorter := extend piece cs rest.tail
    let here :=
      if piece = .anyText then rest.headD false || shorter.headD false
      else piece.accepts c && rest.tail.headD false
    here :: shorter

/-- For each suffix of a text, the longest first, whether the pieces match all of it. -/
def suffixMatches (cs : List Char) : List Piece → List Bool
  | [] => cs.map (fun _ => false) ++ [true]
  | piece :: pieces => extend piece cs (suffixMatches cs pieces)

/-- Whether the pieces match the whole text. -/
def covers (pieces : List Piece) (cs : List Char) : Bool :=
  (suffixMatches cs pieces).headD false

end SignedAdmission.Glob
