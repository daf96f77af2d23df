import SignedAdmission.Text.CaseTable
import SignedAdmission.Text.Word

/-! Full lowercase mapping of a text. Only two code points need more than a table: the dotted
capital I becomes two characters, and a capital sigma depends on its neighbours. -/
namespace SignedAdmission.Text

/-- The partner that the table has for one character, itself if it has none. -/
def lowerChar (c : Char) : Char :=
  match lowercaseRuns.find? fun (first, last, step, _) =>
      first ≤ c.toNat && c.toNat ≤ last && (c.toNat - first) % step == 0 with
  | some (_, _, _, distance) => Char.ofNat (c.toNat + distance).toNat
  | none => c

/-- Whether a cased letter comes next once case-ignorable characters are passed over. -/
def casedAhead (cs : List Char) : Bool :=
  match cs.dropWhile (inRanges caseIgnorableRanges) with
  | [] => false
  | c :: _ => inRanges casedRanges c

/-- `before` holds the characters already passed, nearest first. A capital sigma that ends a word
takes the final form. -/
def lowercaseFrom (before : List Char) : List Char → List Char
  | [] => []
  | c :: cs =>
    let lower :=
      if c = 'Σ' then [if casedAhead before && !casedAhead cs then 'ς' else 'σ']
      else if c = 'İ' then ['i', '\u0307']
      else if c.toNat < 0x80 then [c.toLower]
      else [lowerChar c]
    lower ++ lowercaseFrom (c :: before) cs

def lowercase (cs : List Char) : List Char :=
  lowercaseFrom [] cs

end SignedAdmission.Text
