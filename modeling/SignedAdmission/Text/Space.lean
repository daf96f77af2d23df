/-! White space as the Unicode property White_Space has it, and trimming by it. -/
namespace SignedAdmission.Text

/-- The Unicode property White_Space. -/
def isSpace (c : Char) : Bool :=
  let n := c.toNat
  (9 ≤ n && n ≤ 13) || n == 0x20 || n == 0x85 || n == 0xA0 || n == 0x1680 ||
    (0x2000 ≤ n && n ≤ 0x200A) || n == 0x2028 || n == 0x2029 || n == 0x202F ||
    n == 0x205F || n == 0x3000

def trimStart (cs : List Char) : List Char :=
  cs.dropWhile isSpace

def trim (cs : List Char) : List Char :=
  (trimStart (trimStart cs).reverse).reverse

def withoutSpaces (cs : List Char) : List Char :=
  cs.filter (!isSpace ·)

end SignedAdmission.Text
