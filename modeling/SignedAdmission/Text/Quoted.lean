import SignedAdmission.Text.PrintTable
import SignedAdmission.Text.Word

/-! Text in double quotes, as messages show a value that came from outside: everything that would
not show, or would blur into its neighbour, is written as an escape. -/
namespace SignedAdmission.Text

def hexDigits (n : Nat) : List Char :=
  Nat.toDigits 16 n

def isVisible (c : Char) : Bool :=
  if c.toNat < 0x7F then 0x20 ≤ c.toNat
  else !inRanges invisibleRanges c && !inRanges extendingRanges c

def quotedChar (c : Char) : List Char :=
  match c with
  | '\x00' => ['\\', '0']
  | '\t' => ['\\', 't']
  | '\r' => ['\\', 'r']
  | '\n' => ['\\', 'n']
  | '"' => ['\\', '"']
  | '\\' => ['\\', '\\']
  | c => if isVisible c then [c] else ['\\', 'u', '\x7b'] ++ hexDigits c.toNat ++ ['\x7d']

def quoted (s : String) : String :=
  String.ofList (['"'] ++ s.toList.flatMap quotedChar ++ ['"'])

/-- Quoted texts in brackets, set apart by a comma and a blank. -/
def quotedList (texts : List String) : String :=
  "[" ++ ", ".intercalate (texts.map quoted) ++ "]"

end SignedAdmission.Text
