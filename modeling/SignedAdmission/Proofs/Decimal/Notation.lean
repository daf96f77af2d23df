import SignedAdmission.Decimal.Numeral
import SignedAdmission.Proofs.Decimal.Digits
import SignedAdmission.Proofs.Decimal.Shortest

/-! The notation of doubles: the parts that it is put together from, and the value that is read from
them again. -/
namespace SignedAdmission

namespace Numeral

def value (n : Numeral) : ℚ :=
  n.significand * 10 ^ n.exponent

section Digits

theorem digitsValue_eq (cs : List Char) : digitsValue cs = Nat.ofDigitChars 10 cs 0 :=
  Nat.ofDigitChars_eq_foldl.symm

@[simp]
theorem digitsValue_toDigits (n : ℕ) : digitsValue (Nat.toDigits 10 n) = n := by
  rw [digitsValue_eq, Nat.ofDigitChars_ten_toDigits]

theorem digitsValue_append_zeros (cs : List Char) (count : ℕ) :
    digitsValue (cs ++ List.replicate count '0') = 10 ^ count * digitsValue cs := by
  rw [digitsValue_eq, digitsValue_eq, Nat.ofDigitChars_append, Nat.ofDigitChars_replicate_zero]

theorem digitsValue_zeros_append (cs : List Char) (count : ℕ) :
    digitsValue (List.replicate count '0' ++ cs) = digitsValue cs := by
  rw [digitsValue_eq, digitsValue_eq, Nat.ofDigitChars_append, Nat.ofDigitChars_replicate_zero,
    Nat.mul_zero]

/-- Digits end where something else begins. -/
theorem span_digits {digits rest : List Char} (h : ∀ c ∈ digits, c.isDigit = true)
    (stop : ∀ c ∈ rest.head?, c.isDigit = false) :
    (digits ++ rest).takeWhile Char.isDigit = digits ∧
      (digits ++ rest).dropWhile Char.isDigit = rest := by
  rw [List.takeWhile_append_of_pos h, List.dropWhile_append_of_pos h]
  cases rest with
  | nil => simp
  | cons c rest => simp [stop c rfl]

end Digits

/-- What a number is written with: digits, maybe a point with more of them, and maybe an exponent. -/
structure Parts where
  whole : List Char
  fraction : Option (List Char)
  exponent : Option ℤ

namespace Parts

def exponentText (e : ℤ) : List Char :=
  'e' :: (if e < 0 then '-' else '+') :: Nat.toDigits 10 e.natAbs

def text (parts : Parts) : List Char :=
  parts.whole ++ (parts.fraction.elim [] ('.' :: ·) ++ parts.exponent.elim [] exponentText)

def numeral (parts : Parts) (negative : Bool) : Numeral where
  negative := negative
  significand := digitsValue (parts.whole ++ parts.fraction.getD [])
  exponent := parts.exponent.getD 0 - (parts.fraction.getD []).length

/-- There is a digit in front, and something that tells the number from an integer. -/
structure Valid (parts : Parts) : Prop where
  whole : ∀ c ∈ parts.whole, c.isDigit = true
  fraction : ∀ digits ∈ parts.fraction, ∀ c ∈ digits, c.isDigit = true
  some_digit : parts.whole ≠ []
  marked : parts.fraction ≠ none ∨ parts.exponent ≠ none

variable {parts : Parts}

theorem exponent?_exponentText (exponent : Option ℤ) :
    exponent? (exponent.elim [] exponentText) = some (exponent.getD 0) := by
  cases exponent with
  | none => rfl
  | some e =>
    have digits : (Nat.toDigits 10 e.natAbs).all Char.isDigit = true :=
      List.all_eq_true.mpr Decimal.isDigit_of_mem_toDigits
    simp only [Option.elim_some, exponentText, exponent?]
    by_cases negative : e < 0
    · simp [negative, sign, digits, Nat.toDigits_ne_nil, abs_of_neg negative]
    · simp [negative, sign, digits, Nat.toDigits_ne_nil, abs_of_nonneg (not_lt.mp negative)]

theorem head?_exponentText (exponent : Option ℤ) :
    ∀ c ∈ (exponent.elim [] exponentText).head?, c = 'e' := by
  cases exponent <;> simp [exponentText, eq_comm]

/-- A minus sign is told from the digits that follow it. -/
theorem sign_text (valid : parts.Valid) (negative : Bool) :
    sign ((if negative then ['-'] else []) ++ parts.text) = (negative, parts.text) := by
  cases negative with
  | true => rfl
  | false =>
    obtain ⟨c, cs, front⟩ := List.exists_cons_of_ne_nil valid.some_digit
    have digit : c.isDigit = true := valid.whole c (by simp [front])
    rw [if_neg Bool.false_ne_true, List.nil_append, text, front, List.cons_append, sign]
    all_goals
      rintro _ same
      obtain ⟨rfl, -⟩ := List.cons.inj same
      simp at digit

/-- The parts of a number are found again in what is written. -/
theorem parse?_text (valid : parts.Valid) (negative : Bool) :
    parse? ((if negative then ['-'] else []) ++ parts.text) = some (parts.numeral negative) := by
  obtain ⟨whole, fraction, exponent⟩ := parts
  have whole_ne : whole ≠ [] := valid.some_digit
  have ending := exponent?_exponentText exponent
  have mark : ∀ c ∈ (exponent.elim [] exponentText).head?, c.isDigit = false ∧ c ≠ '.' := by
    intro c head
    obtain rfl := head?_exponentText exponent c head
    decide
  rw [parse?, sign_text valid]
  cases fraction with
  | none =>
    have front := (span_digits valid.whole fun c head => (mark c head).1).1
    simp only [text, numeral, Option.elim_none, List.nil_append, front, List.drop_left,
      Option.getD_none, List.append_nil]
    split
    case h_1 rest point =>
      exact absurd rfl (mark '.' (by rw [point]; rfl)).2
    case h_2 => simp [whole_ne, ending]
  | some digits =>
    have front : (whole ++ '.' :: (digits ++ exponent.elim [] exponentText)).takeWhile
        Char.isDigit = whole := (span_digits valid.whole (by simp)).1
    obtain ⟨middle, rest⟩ :=
      span_digits (valid.fraction digits rfl) fun c head => (mark c head).1
    simp only [text, numeral, Option.elim_some, List.cons_append, front, List.drop_left, middle,
      rest, Option.getD_some]
    simp [whole_ne, ending]

/-- Characters that numbers are written with. -/
def isNumberChar (c : Char) : Bool :=
  c.isDigit || c == '.' || c == 'e' || c == '+' || c == '-'

theorem isNumberChar_of_isDigit {c : Char} (h : c.isDigit = true) : isNumberChar c = true := by
  simp [isNumberChar, h]

theorem isNumberChar_text (valid : parts.Valid) : ∀ c ∈ parts.text, isNumberChar c = true := by
  obtain ⟨whole, fraction, exponent⟩ := parts
  refine List.forall_mem_append.mpr ⟨fun c member => ?_, List.forall_mem_append.mpr ⟨?_, ?_⟩⟩
  · exact isNumberChar_of_isDigit (valid.whole c member)
  · cases fraction with
    | none => simp
    | some digits =>
      refine List.forall_mem_cons.mpr ⟨rfl, fun c member => ?_⟩
      exact isNumberChar_of_isDigit (valid.fraction digits rfl c member)
  · cases exponent with
    | none => simp
    | some e =>
      refine List.forall_mem_cons.mpr ⟨rfl, List.forall_mem_cons.mpr ⟨?_, fun c member => ?_⟩⟩
      · split <;> rfl
      · exact isNumberChar_of_isDigit (Decimal.isDigit_of_mem_toDigits c member)

/-- No integer is written like that. -/
theorem mark_mem_text (valid : parts.Valid) : '.' ∈ parts.text ∨ 'e' ∈ parts.text := by
  obtain ⟨whole, fraction, exponent⟩ := parts
  obtain pointed | scaled := valid.marked
  · obtain ⟨digits, rfl⟩ := Option.ne_none_iff_exists'.mp pointed
    simp [text]
  · obtain ⟨e, rfl⟩ := Option.ne_none_iff_exists'.mp scaled
    simp [text, exponentText]

end Parts

end Numeral

namespace Binary64

open Numeral

/-- The parts of a decimal in one of the notations. -/
def Spells (parts : Parts) (d : Decimal) : Prop :=
  parts.Valid ∧ ∀ negative, (parts.numeral negative).value = d.value

theorem spells_of_eq {parts : Parts} {d : Decimal} (valid : parts.Valid)
    (digits : digitsValue (parts.whole ++ parts.fraction.getD []) = d.digits)
    (exponent : parts.exponent.getD 0 - (parts.fraction.getD []).length = d.exponent) :
    Spells parts d :=
  ⟨valid, fun _ => by rw [Numeral.value, Parts.numeral, digits, exponent, Decimal.value]⟩

section Forms

variable {d : Decimal} {digits : List Char} (printed : Nat.toDigits 10 d.digits = digits)
include printed

theorem digit_of_printed : ∀ c ∈ digits, c.isDigit = true :=
  printed ▸ Decimal.isDigit_of_mem_toDigits

theorem ne_nil_of_printed : digits ≠ [] :=
  printed ▸ Nat.toDigits_ne_nil

theorem digitsValue_of_printed : digitsValue digits = d.digits := by
  rw [← printed, digitsValue_toDigits]

omit printed in
theorem digit_of_zeros {count : ℕ} : ∀ c ∈ List.replicate count '0', c.isDigit = true := by
  intro c member
  rw [List.eq_of_mem_replicate member]
  rfl

/-- A whole number with the zeros that its exponent stands for. -/
theorem spells_whole (h : 0 ≤ d.exponent) :
    Spells ⟨digits ++ List.replicate d.exponent.toNat '0', some ['0'], none⟩ d := by
  refine ⟨⟨?_, by simp, ?_, by simp⟩, fun negative => ?_⟩
  · exact List.forall_mem_append.mpr ⟨digit_of_printed printed, digit_of_zeros⟩
  · simp [ne_nil_of_printed printed]
  · obtain ⟨places, exponent⟩ := Int.eq_ofNat_of_zero_le h
    have last : digitsValue (digits ++ List.replicate places '0' ++ ['0']) =
        10 ^ (places + 1) * d.digits := by
      rw [List.append_assoc, ← List.replicate_succ', digitsValue_append_zeros,
        digitsValue_of_printed printed]
    simp only [Numeral.value, Parts.numeral, Decimal.value, exponent, Int.toNat_natCast,
      Option.getD_some, Option.getD_none, last, List.length_singleton, zpow_natCast]
    push_cast
    rw [zpow_neg_one]
    ring

/-- Digits with a point among them. -/
theorem spells_pointed {point : ℕ} (inner : 0 < point) (places : d.exponent = point - digits.length)
    (fractional : d.exponent < 0) :
    Spells ⟨digits.take point, some (digits.drop point), none⟩ d := by
  have all := digit_of_printed printed
  refine spells_of_eq ⟨fun c member => all c (List.mem_of_mem_take member), ?_, ?_, by simp⟩ ?_ ?_
  · rintro _ ⟨rfl⟩ c member
    exact all c (List.mem_of_mem_drop member)
  · simpa [inner.ne'] using ne_nil_of_printed printed
  · simpa using digitsValue_of_printed printed
  · simp only [Option.getD_none, Option.getD_some, List.length_drop]
    omega

/-- A number below one, with the zeros that come first. -/
theorem spells_small {count : ℕ} (places : d.exponent = -(count : ℤ) - digits.length) :
    Spells ⟨['0'], some (List.replicate count '0' ++ digits), none⟩ d := by
  refine spells_of_eq ⟨by simp, ?_, by simp, by simp⟩ ?_ ?_
  · rintro _ ⟨rfl⟩
    exact List.forall_mem_append.mpr ⟨digit_of_zeros, digit_of_printed printed⟩
  · rw [← digitsValue_of_printed printed]
    exact digitsValue_zeros_append digits (count + 1)
  · simp only [Option.getD_none, Option.getD_some, List.length_append, List.length_replicate]
    omega

/-- One digit, and any others after a point, with an exponent. -/
theorem spells_scientific {exponent : ℤ} (places : d.exponent = exponent + 1 - digits.length) :
    ∃ first rest, digits = first :: rest ∧
      Spells ⟨[first], if rest = [] then none else some rest, some exponent⟩ d := by
  have all := digit_of_printed printed
  have value := digitsValue_of_printed printed
  obtain ⟨first, rest, rfl⟩ := List.exists_cons_of_ne_nil (ne_nil_of_printed printed)
  rw [List.forall_mem_cons] at all
  rw [List.length_cons] at places
  refine ⟨first, rest, rfl, ?_⟩
  split
  case isTrue single =>
    subst single
    refine spells_of_eq ⟨by simpa using all.1, by simp, by simp, by simp⟩ value ?_
    simp only [Option.getD_some, Option.getD_none, List.length_nil] at places ⊢
    omega
  case isFalse =>
    refine spells_of_eq ⟨by simpa using all.1, ?_, by simp, by simp⟩ value ?_
    · rintro _ ⟨rfl⟩
      exact all.2
    · simp only [Option.getD_some]
      omega

end Forms

/-- A double other than zero is written as its sign and the parts of its shortest decimal. -/
theorem exists_spelled {form : DecimalForm} (pointed : form.pointed = true) {x : Binary64}
    (nonzero : x.isZero = false) :
    ∃ parts, Spells parts x.shortest ∧
      x.format form = (if x.negative then ['-'] else []) ++ parts.text := by
  rw [format, nonzero, if_neg Bool.false_ne_true]
  generalize x.shortest = d
  generalize (if x.negative = true then ['-'] else []) = sign
  obtain ⟨digits, printed⟩ : ∃ digits, Nat.toDigits 10 d.digits = digits := ⟨_, rfl⟩
  simp only [printed, pointed, if_true]
  split
  case isTrue large =>
    exact ⟨_, spells_whole printed large.1, by simp [Parts.text]⟩
  case isFalse fractional =>
    split
    case isTrue inner =>
      obtain ⟨point, reached⟩ := Int.eq_ofNat_of_zero_le inner.1.le
      rw [reached] at inner fractional ⊢
      exact ⟨_, spells_pointed printed (by omega : 0 < point) (by omega) (by omega),
        by simp [Parts.text]⟩
    case isFalse outer =>
      split
      case isTrue small =>
        obtain ⟨count, zeros⟩ := Int.eq_ofNat_of_zero_le (Int.neg_nonneg_of_nonpos small.2)
        rw [zeros]
        exact ⟨_, spells_small printed (by omega : d.exponent = -(count : ℤ) - digits.length),
          by simp [Parts.text]⟩
      case isFalse =>
        have places : d.exponent =
            (digits.length + d.exponent - 1 : ℤ) + 1 - digits.length := by omega
        obtain ⟨first, rest, rfl, spelled⟩ := spells_scientific printed places
        refine ⟨_, spelled, ?_⟩
        cases rest <;> simp [Parts.text, Parts.exponentText]

/-- The value of what is written for a double, without its sign. -/
def printed (x : Binary64) : ℚ :=
  if x.isZero then 0 else x.shortest.value

variable {form : DecimalForm} {x y : Binary64}

theorem exists_parts (pointed : form.pointed = true) (x : Binary64) :
    ∃ parts : Parts, parts.Valid ∧
      x.format form = (if x.negative then ['-'] else []) ++ parts.text ∧
      ∀ negative, (parts.numeral negative).value = x.printed := by
  rw [printed]
  cases zero : x.isZero with
  | false =>
    obtain ⟨parts, ⟨valid, value⟩, written⟩ := exists_spelled pointed zero
    exact ⟨parts, valid, written, value⟩
  | true =>
    refine ⟨⟨['0'], some ['0'], none⟩, ⟨by simp, by simp, by simp, by simp⟩, ?_, fun negative => ?_⟩
    · simp [format, zero, pointed, Parts.text]
    · simp [Numeral.value, Parts.numeral, digitsValue]

theorem significand_pos_iff : 0 < x.significand ↔ x.isZero = false := by
  simp [isZero, Nat.pos_iff_ne_zero]

theorem Canonical.eq_of_isZero (hx : x.Canonical) (zero : x.isZero = true) :
    x.significand = 0 ∧ x.exponent = -1074 := by
  have none_left : x.significand = 0 := by simpa [isZero] using zero
  refine ⟨none_left, le_antisymm (not_lt.mp fun larger => ?_) hx.le_exponent⟩
  have full := hx.normal larger
  omega

/-- What is written for a double determines its magnitude. -/
theorem eq_of_printed (hx : x.Canonical) (hy : y.Canonical) (same : x.printed = y.printed) :
    x.significand = y.significand ∧ x.exponent = y.exponent := by
  have positive {z : Binary64} (hz : z.Canonical) (nonzero : z.isZero = false) :
      0 < z.shortest.value := (roundsTo_shortest hz (significand_pos_iff.mpr nonzero)).1
  rw [printed, printed] at same
  cases xZero : x.isZero <;> cases yZero : y.isZero <;>
    simp only [xZero, yZero, if_true, Bool.false_eq_true, if_false] at same
  · exact shortest_injective hx hy (significand_pos_iff.mpr xZero) (significand_pos_iff.mpr yZero)
      same
  · exact absurd same (positive hx xZero).ne'
  · exact absurd same (positive hy yZero).ne
  · obtain ⟨left, leftExponent⟩ := hx.eq_of_isZero xZero
    obtain ⟨right, rightExponent⟩ := hy.eq_of_isZero yZero
    exact ⟨left.trans right.symm, leftExponent.trans rightExponent.symm⟩

/-- Different doubles are written differently. -/
theorem format_injective (pointed : form.pointed = true) (hx : x.Canonical) (hy : y.Canonical)
    (same : x.format form = y.format form) : x = y := by
  obtain ⟨left, leftValid, leftText, leftValue⟩ := exists_parts pointed x
  obtain ⟨right, rightValid, rightText, rightValue⟩ := exists_parts pointed y
  have read := Parts.parse?_text leftValid x.negative
  rw [← leftText, same, rightText, Parts.parse?_text rightValid] at read
  have numerals := Option.some.inj read
  have value : x.printed = y.printed := by
    rw [← leftValue x.negative, ← numerals, rightValue]
  obtain ⟨significand, exponent⟩ := eq_of_printed hx hy value
  have negative : y.negative = x.negative := congrArg Numeral.negative numerals
  cases x
  cases y
  simp_all

end Binary64

end SignedAdmission
