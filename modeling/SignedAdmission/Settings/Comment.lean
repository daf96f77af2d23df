/-! Comments of settings files: to the end of a line after two slashes, and in blocks. -/
namespace SignedAdmission.Comment

/-- What is left after a block comment that is open `depth` deep. Blocks lie in each other only
where `nested` says so. -/
def block? (nested : Bool) : Nat → List Char → Option (List Char)
  | 0, cs => some cs
  | _ + 1, [] => none
  | depth + 1, '*' :: '/' :: rest => block? nested depth rest
  | depth + 1, '/' :: '*' :: rest => block? nested (if nested then depth + 2 else depth + 1) rest
  | depth + 1, _ :: rest => block? nested (depth + 1) rest

/-- Passes blanks and comments; `fuel` bounds their number. -/
def skip? (isBlank isBreak : Char → Bool) (nested : Bool) : Nat → List Char → Option (List Char)
  | 0, cs => some cs
  | fuel + 1, cs =>
    match cs.dropWhile isBlank with
    | '/' :: '/' :: rest => skip? isBlank isBreak nested fuel (rest.dropWhile (!isBreak ·))
    | '/' :: '*' :: rest => do skip? isBlank isBreak nested fuel (← block? nested 1 rest)
    | rest => some rest

end SignedAdmission.Comment
