import SignedAdmission.Text.WordTable

/-! Word characters, the class that tags and challenge parameters are made of. -/
namespace SignedAdmission.Text

def inRanges (ranges : List (Nat × Nat)) (c : Char) : Bool :=
  ranges.any fun range => range.1 ≤ c.toNat && c.toNat ≤ range.2

/-- Letters, marks, decimal digits, connectors such as `_`, and the two joiners. -/
def isWord (c : Char) : Bool :=
  if c.toNat < 0x80 then c.isAlphanum || c == '_' else inRanges wordRanges c

end SignedAdmission.Text
