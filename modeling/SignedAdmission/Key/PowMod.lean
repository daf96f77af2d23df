/-! Powers modulo a number. -/
namespace SignedAdmission

/-- The power of a number to an exponent below `2 ^ bits`, by repeated squaring. -/
def powMod (modulus base exponent bits : Nat) : Nat :=
  (List.range bits).reverse.foldl
    (fun acc i =>
      let square := acc * acc % modulus
      if exponent.testBit i then square * base % modulus else square)
    (1 % modulus)

end SignedAdmission
