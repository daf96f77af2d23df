/-! Cutting text at a separator character. -/
namespace SignedAdmission.Text

/-- The pieces between the separators, one more than there are separators. -/
def split (sep : Char) : List Char → List (List Char)
  | [] => [[]]
  | c :: cs =>
    if c = sep then [] :: split sep cs
    else
      match split sep cs with
      | [] => [[c]]
      | piece :: pieces => (c :: piece) :: pieces

def join (sep : Char) (pieces : List (List Char)) : List Char :=
  [sep].intercalate pieces

/-- The text before the first separator, and the text after it if there is one. -/
def cut (sep : Char) : List Char → List Char × Option (List Char)
  | [] => ([], none)
  | c :: cs =>
    if c = sep then ([], some cs)
    else
      let (before, after) := cut sep cs
      (c :: before, after)

/-- What follows `start`, if the text begins with it. -/
def dropStart? (start : List Char) (cs : List Char) : Option (List Char) :=
  if start.isPrefixOf cs then some (cs.drop start.length) else none

/-- Whether `part` occurs in the text. -/
def contains (part : List Char) : List Char → Bool
  | [] => part.isEmpty
  | c :: cs => part.isPrefixOf (c :: cs) || contains part cs

/-- How often `part` occurs in the text, counted from the left without overlaps; the empty text is
never counted. -/
def occurrences (part : List Char) (cs : List Char) : Nat :=
  count cs 0
where
  /-- `skip` characters still belong to the last occurrence. -/
  count : List Char → Nat → Nat
    | [], _ => 0
    | _ :: cs, skip + 1 => count cs skip
    | c :: cs, 0 =>
      if !part.isEmpty && part.isPrefixOf (c :: cs) then count cs (part.length - 1) + 1
      else count cs 0

end SignedAdmission.Text
