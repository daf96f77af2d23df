import SignedAdmission.Bytes.Base64
import SignedAdmission.Text.Split

/-! Textual encoding of keys: base64 in lines of 64 characters between two boundary lines that
carry the same label. Text may stand before the first boundary, and nothing after the last. -/
namespace SignedAdmission.Pem

def beginBoundary : List Char := "-----BEGIN ".toList
def endBoundary : List Char := "-----END ".toList
def dashes : List Char := "-----".toList

def lineWidth : Nat := 64

/-- What follows the first boundary that starts a line; a NUL before it is refused. -/
def afterBegin? (cs : List Char) : Option (List Char) :=
  (Text.dropStart? beginBoundary cs).or (later cs)
where
  later : List Char → Option (List Char)
    | [] => none
    | '\x00' :: _ => none
    | '\n' :: rest => (Text.dropStart? beginBoundary rest).or (later rest)
    | _ :: rest => later rest

/-- A line ends with CR, LF, or both. -/
def dropEol? : List Char → Option (List Char)
  | '\r' :: '\n' :: rest => some rest
  | '\r' :: rest => some rest
  | '\n' :: rest => some rest
  | _ => none

def dropLastEol? (cs : List Char) : Option (List Char) :=
  match cs.reverse with
  | '\n' :: '\r' :: rest => some rest.reverse
  | '\n' :: rest => some rest.reverse
  | '\r' :: rest => some rest.reverse
  | _ => none

def dropEnd? (tail cs : List Char) : Option (List Char) :=
  (Text.dropStart? tail.reverse cs.reverse).map List.reverse

/-- The text between the boundaries of a label, without the line ends that belong to them. -/
def body? (label : List Char) (cs : List Char) : Option (List Char) := do
  let cs ← afterBegin? cs
  let cs ← Text.dropStart? (label ++ dashes) cs
  let cs ← dropEol? cs
  let cs ← dropEnd? (endBoundary ++ label ++ dashes) ((dropLastEol? cs).getD cs)
  dropLastEol? cs

/-- Joins lines that all have the full width, save for the last, which may be shorter and may keep
a line end. `fuel` bounds their number. -/
def joinLines? : Nat → List Char → Option (List Char)
  | 0, _ => none
  | fuel + 1, cs =>
    match cs.drop lineWidth with
    | [] => some ((dropLastEol? cs).getD cs)
    | rest => do
      let rest ← dropEol? rest
      return cs.take lineWidth ++ (← joinLines? fuel rest)

/-- The bytes that a document with a label holds. -/
def decode? (label : String) (cs : List Char) : Option (List UInt8) := do
  let body ← body? label.toList cs
  guard (!body.isEmpty)
  Base64.decode? (← joinLines? (body.length + 1) body)

end SignedAdmission.Pem
