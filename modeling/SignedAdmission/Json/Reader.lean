import SignedAdmission.Json.Token

/-! Reading JSON text. The tokens drive a machine whose stack holds the containers that are still
open; each value that is finished goes to the innermost of them. Text with numbers that are too large,
with halves of surrogate pairs or with too many containers inside each other is not read. -/
namespace SignedAdmission.Json

/-- A container with what it holds so far: an array's items, last one first, or an object's fields
and the key whose value is being read. -/
inductive Frame where
  | array (items : List Json)
  | object (fields : Fields) (key : String)

/-- What may come next. -/
inductive ReadState where
  | value (stack : List Frame)
  | firstItem (stack : List Frame)
  | afterItem (items : List Json) (stack : List Frame)
  | nextKey (fields : Fields) (mayClose : Bool) (stack : List Frame)
  | afterKey (fields : Fields) (key : String) (stack : List Frame)
  | afterField (fields : Fields) (stack : List Frame)
  | finished (value : Json)

namespace ReadState

/-- Hands a finished value to the innermost open container. -/
def complete (value : Json) : List Frame → ReadState
  | [] => .finished value
  | .array items :: stack => .afterItem (value :: items) stack
  | .object fields key :: stack => .afterField (setField key value fields) stack

/-- At most so many containers may lie inside each other. -/
def maxDepth : Nat := 127

/-- The first token of a value. -/
def begin? (stack : List Frame) : Token → Option ReadState
  | .null => some (complete .null stack)
  | .bool b => some (complete (.bool b) stack)
  | .number n => some (complete (.number n) stack)
  | .string s => some (complete (.string s) stack)
  | .openArray => if stack.length < maxDepth then some (.firstItem stack) else none
  | .openObject => if stack.length < maxDepth then some (.nextKey [] true stack) else none
  | _ => none

def step? : ReadState → Token → Option ReadState
  | .value stack, token => begin? stack token
  | .firstItem stack, .closeArray => some (complete (.array []) stack)
  | .firstItem stack, token => begin? (.array [] :: stack) token
  | .afterItem items stack, .comma => some (.value (.array items :: stack))
  | .afterItem items stack, .closeArray => some (complete (.array items.reverse) stack)
  | .nextKey fields _ stack, .string key => some (.afterKey fields key stack)
  | .nextKey _ true stack, .closeObject => some (complete (.object []) stack)
  | .afterKey fields key stack, .colon => some (.value (.object fields key :: stack))
  | .afterField fields stack, .comma => some (.nextKey fields false stack)
  | .afterField fields stack, .closeObject => some (complete (.object fields) stack)
  | _, _ => none

end ReadState

def ofTokens? (tokens : List Token) : Option Json :=
  match tokens.foldlM ReadState.step? (.value []) with
  | some (.finished value) => some value
  | _ => none

/-- The value that a text denotes, none if it is not JSON or beyond what is read. -/
def parse? (cs : List Char) : Option Json := do
  ofTokens? (← Token.scan? cs)

/-- The value that bytes in UTF-8 denote, none if they are not JSON or beyond what is read. -/
def ofBytes? (bytes : List UInt8) : Option Json := do
  let text ← String.fromUTF8? bytes.toByteArray
  parse? text.toList

end SignedAdmission.Json
