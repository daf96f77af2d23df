import SignedAdmission.Json.Basic
import SignedAdmission.Text.Split

/-! JSON pointers: a path of object keys and array indices, and its textual form with `/` before
each step, `~1` for a slash and `~0` for a tilde inside one. -/
namespace SignedAdmission.Json

/-- An array index has no sign and no leading zero. -/
def index? (step : String) : Option Nat :=
  let digits := step.toList
  if digits.isEmpty || !digits.all Char.isDigit || (digits.head? == some '0' && digits.length != 1)
  then none
  else some (digits.foldl (fun n c => 10 * n + (c.toNat - '0'.toNat)) 0)

/-- One step from a value to a value inside it. -/
def child? (step : String) : Json → Option Json
  | .object fields => fields.lookup step
  | .array items => do items[← index? step]?
  | _ => none

/-- The value at the end of a path. -/
def at? : List String → Json → Option Json
  | [], value => some value
  | step :: path, value => do at? path (← value.child? step)

/-- Undoes the escapes of one step. -/
def unescapeStep (step : List Char) : List Char :=
  tildes (slashes step)
where
  slashes : List Char → List Char
    | '~' :: '1' :: rest => '/' :: slashes rest
    | c :: rest => c :: slashes rest
    | [] => []
  tildes : List Char → List Char
    | '~' :: '0' :: rest => '~' :: tildes rest
    | c :: rest => c :: tildes rest
    | [] => []

/-- The steps that a pointer spells; the empty pointer has none. -/
def steps? (pointer : String) : Option (List String) :=
  match pointer.toList with
  | [] => some []
  | '/' :: rest => some ((Text.split '/' rest).map fun step => String.ofList (unescapeStep step))
  | _ => none

/-- Tildes and slashes of a step are escaped. -/
def escapeStep (step : List Char) : List Char :=
  step.flatMap fun c =>
    if c = '~' then ['~', '0'] else if c = '/' then ['~', '1'] else [c]

/-- The pointer that spells a path. -/
def pointerText (path : List String) : String :=
  String.ofList (path.flatMap fun step => '/' :: escapeStep step.toList)

/-- The value that a pointer refers to. -/
def pointer? (pointer : String) (value : Json) : Option Json := do
  value.at? (← steps? pointer)

end SignedAdmission.Json
