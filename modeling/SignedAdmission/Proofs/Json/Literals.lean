import SignedAdmission.Proofs.Json.Printing

/-! The strings and numbers of JSON, independent of how they are read. A string is read exactly up to
the quote that ends it, and a number up to what does not continue it. -/
namespace SignedAdmission.Json

namespace Grammar

/-- What stands between the quotes of a string, and the text that it means. A surrogate is written
only as one half of a pair. -/
inductive Quoted : List Char → List Char → Prop
  | nil : Quoted [] []
  | plain {c spelled cs} (quote : c ≠ '"') (backslash : c ≠ '\\') (printed : ¬ c.toNat < 0x20)
    (rest : Quoted spelled cs) : Quoted (c :: spelled) (c :: cs)
  | escaped {letter c spelled cs} (named : Token.escaped? letter = some c)
    (rest : Quoted spelled cs) : Quoted ('\\' :: letter :: spelled) (c :: cs)
  | unit {a b c d unit spelled cs} (value : Token.hex4? a b c d = some unit)
    (scalar : unit < 0xD800 ∨ 0xE000 ≤ unit) (rest : Quoted spelled cs) :
    Quoted ('\\' :: 'u' :: a :: b :: c :: d :: spelled) (Char.ofNat unit :: cs)
  | pair {a b c d e f g h high low spelled cs} (first : Token.hex4? a b c d = some high)
    (leading : 0xD800 ≤ high ∧ high < 0xDC00) (second : Token.hex4? e f g h = some low)
    (trailing : 0xDC00 ≤ low ∧ low < 0xE000) (rest : Quoted spelled cs) :
    Quoted ('\\' :: 'u' :: a :: b :: c :: d :: '\\' :: 'u' :: e :: f :: g :: h :: spelled)
      (Char.ofNat (0x10000 + (high - 0xD800) * 0x400 + (low - 0xDC00)) :: cs)

/-- Digits, at least one. -/
structure Digits (cs : List Char) : Prop where
  filled : cs ≠ []
  digits : ∀ c ∈ cs, c.isDigit = true

/-- The digits in front of the point. Zero is written with one digit, and no other number begins
with it. -/
structure Whole (cs : List Char) : Prop extends Digits cs where
  plain : cs.head? = some '0' → cs = ['0']

inductive Fraction : List Char → Option (List ℕ) → Prop
  | none : Fraction [] none
  | some {cs} (digits : Digits cs) : Fraction ('.' :: cs) (some (cs.map Token.digitValue))

inductive Sign : List Char → ℤ → Prop
  | none : Sign [] 1
  | plus : Sign ['+'] 1
  | minus : Sign ['-'] (-1)

inductive Exponent : List Char → Option ℤ → Prop
  | none : Exponent [] none
  | some {mark signText sign cs} (marks : mark = 'e' ∨ mark = 'E') (signed : Sign signText sign)
    (digits : Digits cs) :
    Exponent (mark :: (signText ++ cs))
      (some (sign * (cs.map Token.digitValue).foldl (fun n d => 10 * n + d) (0 : ℕ)))

/-- How a number is written without its sign, and the parts that its value is computed from. -/
inductive Unsigned (negative : Bool) : List Char → Token.Numeral → Prop
  | intro {whole fractionText fraction exponentText exponent} (digits : Whole whole)
    (places : Fraction fractionText fraction) (scale : Exponent exponentText exponent) :
    Unsigned negative (whole ++ (fractionText ++ exponentText))
      ⟨negative, whole.map Token.digitValue, fraction, exponent⟩

/-- How a number is written. -/
inductive Signed : List Char → Token.Numeral → Prop
  | positive {text numeral} (magnitude : Unsigned false text numeral) : Signed text numeral
  | negative {text numeral} (magnitude : Unsigned true text numeral) : Signed ('-' :: text) numeral

end Grammar

open Grammar

section Strings

variable {spelled cs text rest : List Char}

theorem quoted?_append (h : Quoted spelled cs) :
    Token.quoted? (spelled ++ '"' :: rest) = some (cs, rest) := by
  induction h with
  | nil => rfl
  | plain quote backslash printed _ ih => exact quoted?_plain quote backslash printed ih
  | escaped named _ ih => exact quoted?_escaped named ih
  | @unit a b c d unit spelled cs value scalar _ ih =>
    have low : ¬ (0xD800 ≤ unit ∧ unit < 0xDC00) := by omega
    have high : ¬ (0xDC00 ≤ unit ∧ unit < 0xE000) := by omega
    simp only [List.cons_append]
    rw [Token.quoted?.eq_3, value, Option.bind_eq_bind, Option.bind_some, if_neg low, if_neg high,
      ih]
    rfl
  | @pair a b c d e f g h high low spelled cs first leading second trailing _ ih =>
    simp only [List.cons_append]
    rw [Token.quoted?.eq_3, first, Option.bind_eq_bind, Option.bind_some, if_pos leading]
    simp only [second, Option.bind_eq_bind, Option.bind_some, if_pos trailing, ih]

theorem exists_quoted (h : Token.quoted? text = some (cs, rest)) :
    ∃ spelled, Quoted spelled cs ∧ text = spelled ++ '"' :: rest := by
  fun_induction Token.quoted? text generalizing cs rest with
  | case1 => simp at h
  | case2 text =>
    obtain ⟨rfl, rfl⟩ := Prod.mk.inj (Option.some.inj h)
    exact ⟨[], .nil, rfl⟩
  | case3 a b c d text pair_ih ih =>
    obtain ⟨unit, value, h⟩ := Option.bind_eq_some_iff.mp h
    split at h
    case isTrue leading =>
      split at h
      case h_1 e f g h' text =>
        obtain ⟨low, second, h⟩ := Option.bind_eq_some_iff.mp h
        obtain ⟨trailing, h⟩ := Option.ite_none_right_eq_some.mp h
        obtain ⟨⟨cs, rest⟩, read, h⟩ := Option.bind_eq_some_iff.mp h
        obtain ⟨rfl, rfl⟩ := Prod.mk.inj (Option.some.inj h)
        obtain ⟨spelled, quoted, rfl⟩ := pair_ih read
        exact ⟨_, .pair value leading second trailing quoted, rfl⟩
      case h_2 => simp at h
    case isFalse low =>
      obtain ⟨high, h⟩ := Option.ite_none_left_eq_some.mp h
      obtain ⟨⟨cs, rest⟩, read, h⟩ := Option.bind_eq_some_iff.mp h
      obtain ⟨rfl, rfl⟩ := Prod.mk.inj (Option.some.inj h)
      obtain ⟨spelled, quoted, rfl⟩ := ih read
      exact ⟨_, .unit value (by omega) quoted, rfl⟩
  | case4 letter text _ ih =>
    obtain ⟨c, named, h⟩ := Option.bind_eq_some_iff.mp h
    obtain ⟨⟨cs, rest⟩, read, h⟩ := Option.bind_eq_some_iff.mp h
    obtain ⟨rfl, rfl⟩ := Prod.mk.inj (Option.some.inj h)
    obtain ⟨spelled, quoted, rfl⟩ := ih read
    exact ⟨_, .escaped named quoted, rfl⟩
  | case5 => simp at h
  | case6 c text quote _ escape printed ih =>
    obtain ⟨⟨cs, rest⟩, read, h⟩ := Option.bind_eq_some_iff.mp h
    obtain ⟨rfl, rfl⟩ := Prod.mk.inj (Option.some.inj h)
    obtain ⟨spelled, quoted, rfl⟩ := ih read
    have backslash : c ≠ '\\' := by
      intro same
      obtain ⟨e, text, front⟩ := List.exists_cons_of_ne_nil
        (List.append_ne_nil_of_right_ne_nil spelled (List.cons_ne_nil '"' rest))
      exact escape e text same front
    exact ⟨_, .plain quote backslash printed quoted, rfl⟩

end Strings

section Numbers

variable {cs rest : List Char}

/-- What follows does not continue a number. -/
def Stops (rest : List Char) : Prop :=
  ∀ c ∈ rest.head?, c.isDigit = false ∧ c ≠ '.' ∧ c ≠ 'e' ∧ c ≠ 'E'

theorem digits_append (h : ∀ c ∈ cs, c.isDigit = true)
    (stop : ∀ c ∈ rest.head?, c.isDigit = false) :
    Token.digits (cs ++ rest) = (cs.map Token.digitValue, rest) := by
  obtain ⟨front, back⟩ := SignedAdmission.Numeral.span_digits h stop
  rw [Token.digits, front, back]

theorem exists_digits (cs : List Char) :
    ∃ digits rest, cs = digits ++ rest ∧ (∀ c ∈ digits, c.isDigit = true) ∧
      Token.digits cs = (digits.map Token.digitValue, rest) := by
  refine ⟨cs.takeWhile Char.isDigit, cs.dropWhile Char.isDigit, ?_, ?_, rfl⟩
  · exact List.takeWhile_append_dropWhile.symm
  · intro c member
    exact List.all_eq_true.mp List.all_takeWhile c member

theorem digitValue_eq_zero {c : Char} (digit : c.isDigit = true) :
    Token.digitValue c = 0 ↔ c = '0' := by
  constructor
  · intro zero
    obtain ⟨-, same⟩ := Decimal.digit_value digit
    rw [← same, show c.toNat - '0'.toNat = 0 from zero]
    rfl
  · rintro rfl
    rfl

section Fractions

variable {text : List Char} {fraction : Option (List ℕ)}

theorem fraction?_append (h : Fraction text fraction)
    (stop : ∀ c ∈ rest.head?, c.isDigit = false ∧ c ≠ '.') :
    Token.fraction? (text ++ rest) = some (fraction, rest) := by
  cases h with
  | none =>
    rw [List.nil_append, Token.fraction?]
    rintro rest' rfl
    exact (stop '.' rfl).2 rfl
  | @some cs digits =>
    rw [List.cons_append, Token.fraction?,
      digits_append digits.digits fun c head => (stop c head).1]
    obtain ⟨c, cs, rfl⟩ := List.exists_cons_of_ne_nil digits.filled
    rfl

theorem exists_fraction (h : Token.fraction? cs = some (fraction, rest)) :
    ∃ text, Fraction text fraction ∧ cs = text ++ rest := by
  unfold Token.fraction? at h
  split at h
  case h_1 cs =>
    obtain ⟨digits, after, rfl, valid, read⟩ := exists_digits cs
    rw [read] at h
    cases digits with
    | nil => simp at h
    | cons c digits =>
      obtain ⟨rfl, rfl⟩ := Prod.mk.inj (Option.some.inj h)
      exact ⟨_, .some ⟨List.cons_ne_nil c digits, valid⟩, rfl⟩
  case h_2 =>
    obtain ⟨rfl, rfl⟩ := Prod.mk.inj (Option.some.inj h)
    exact ⟨[], .none, rfl⟩

end Fractions

section Exponents

variable {text : List Char} {exponent : Option ℤ}

/-- The sign in front of the digits of an exponent, and what comes after it. -/
def signOf : List Char → ℤ × List Char
  | '+' :: rest => (1, rest)
  | '-' :: rest => (-1, rest)
  | rest => (1, rest)

theorem signOf_append {signText : List Char} {sign : ℤ} (h : Sign signText sign)
    (unsigned : ∀ c ∈ cs.head?, c ≠ '+' ∧ c ≠ '-') : signOf (signText ++ cs) = (sign, cs) := by
  cases h with
  | plus => rfl
  | minus => rfl
  | none =>
    cases cs with
    | nil => rfl
    | cons c cs =>
      obtain ⟨plus, minus⟩ := unsigned c rfl
      simp [signOf, plus, minus]

theorem exists_sign (cs : List Char) :
    ∃ text, Sign text (signOf cs).1 ∧ cs = text ++ (signOf cs).2 := by
  unfold signOf
  split
  case h_1 rest => exact ⟨['+'], .plus, rfl⟩
  case h_2 rest => exact ⟨['-'], .minus, rfl⟩
  case h_3 => exact ⟨[], .none, rfl⟩

/-- The digits of an exponent, which count with its sign. -/
def scale? (signed : ℤ × List Char) : Option (Option ℤ × List Char) :=
  match Token.digits signed.2 with
  | ([], _) => none
  | (ds, rest) => some (some (signed.1 * ds.foldl (fun n d => 10 * n + d) (0 : ℕ)), rest)

theorem scale?_append (sign : ℤ) (h : Digits cs) (stop : ∀ c ∈ rest.head?, c.isDigit = false) :
    scale? (sign, cs ++ rest) =
      some (some (sign * (cs.map Token.digitValue).foldl (fun n d => 10 * n + d) (0 : ℕ)),
        rest) := by
  rw [scale?, digits_append h.digits stop]
  obtain ⟨c, cs, rfl⟩ := List.exists_cons_of_ne_nil h.filled
  rfl

theorem exists_scale {signed : ℤ × List Char} (h : scale? signed = some (exponent, rest)) :
    ∃ cs, Digits cs ∧ signed.2 = cs ++ rest ∧
      exponent =
        some (signed.1 * (cs.map Token.digitValue).foldl (fun n d => 10 * n + d) (0 : ℕ)) := by
  obtain ⟨digits, after, split, valid, read⟩ := exists_digits signed.2
  rw [scale?, read] at h
  cases digits with
  | nil => simp at h
  | cons c digits =>
    obtain ⟨rfl, rfl⟩ := Prod.mk.inj (Option.some.inj h)
    exact ⟨c :: digits, ⟨List.cons_ne_nil c digits, valid⟩, split, rfl⟩

theorem exponent?_mark {mark : Char} (marks : mark = 'e' ∨ mark = 'E') :
    Token.exponent? (mark :: cs) = scale? (signOf cs) := by
  unfold Token.exponent?
  exact if_pos marks

theorem exponent?_unmarked (h : ∀ c ∈ cs.head?, c ≠ 'e' ∧ c ≠ 'E') :
    Token.exponent? cs = some (none, cs) := by
  cases cs with
  | nil => rfl
  | cons c cs =>
    unfold Token.exponent?
    exact if_neg (not_or.mpr (h c rfl))

theorem exponent?_append (h : Exponent text exponent)
    (stop : ∀ c ∈ rest.head?, c.isDigit = false ∧ c ≠ 'e' ∧ c ≠ 'E') :
    Token.exponent? (text ++ rest) = some (exponent, rest) := by
  cases h with
  | none => exact exponent?_unmarked fun c first => (stop c first).2
  | @some mark signText sign cs marks signed digits =>
    have unsigned : ∀ c ∈ (cs ++ rest).head?, c ≠ '+' ∧ c ≠ '-' := by
      intro c first
      have digit : c.isDigit = true := by
        rw [List.head?_append_of_ne_nil _ digits.filled] at first
        exact digits.digits c (List.mem_of_mem_head? first)
      constructor <;> rintro rfl <;> contradiction
    rw [List.cons_append, exponent?_mark marks, List.append_assoc, signOf_append signed unsigned,
      scale?_append sign digits fun c first => (stop c first).1]

theorem exists_exponent (h : Token.exponent? cs = some (exponent, rest)) :
    ∃ text, Exponent text exponent ∧ cs = text ++ rest := by
  by_cases marked : ∃ mark cs', cs = mark :: cs' ∧ (mark = 'e' ∨ mark = 'E')
  · obtain ⟨mark, cs, rfl, marks⟩ := marked
    rw [exponent?_mark marks] at h
    obtain ⟨signText, sign, split⟩ := exists_sign cs
    obtain ⟨digits, valid, after, rfl⟩ := exists_scale h
    refine ⟨_, .some marks sign valid, ?_⟩
    rw [List.cons_append, List.append_assoc, ← after, ← split]
  · have unmarked : ∀ c ∈ cs.head?, c ≠ 'e' ∧ c ≠ 'E' := by
      intro c first
      obtain ⟨cs', rfl⟩ := List.head?_eq_some_iff.mp first
      rw [← not_or]
      intro marks
      exact marked ⟨c, cs', rfl, marks⟩
    rw [exponent?_unmarked unmarked] at h
    obtain ⟨rfl, rfl⟩ := Prod.mk.inj (Option.some.inj h)
    exact ⟨[], .none, rfl⟩

end Exponents

section Numerals

variable {text : List Char} {numeral : Token.Numeral} {n : Number}

/-- A fraction does not continue the digits in front of it. -/
theorem Grammar.Fraction.stops {fraction : Option (List ℕ)} (h : Fraction text fraction)
    (stop : ∀ c ∈ rest.head?, c.isDigit = false ∧ c ≠ '.') :
    ∀ c ∈ (text ++ rest).head?, c.isDigit = false := by
  intro c first
  cases h with
  | none => exact (stop c first).1
  | some digits =>
    obtain rfl := Option.some.inj first
    decide

/-- An exponent continues neither digits nor what has no fraction yet. -/
theorem Grammar.Exponent.stops {exponent : Option ℤ} (h : Exponent text exponent)
    (stop : Stops rest) : ∀ c ∈ (text ++ rest).head?, c.isDigit = false ∧ c ≠ '.' := by
  intro c first
  cases h with
  | none => exact ⟨(stop c first).1, (stop c first).2.1⟩
  | some marks signed digits =>
    obtain rfl := Option.some.inj first
    rcases marks with rfl | rfl <;> decide

theorem whole_iff :
    Whole cs ↔ (∀ c ∈ cs, c.isDigit = true) ∧ cs.map Token.digitValue ≠ [] ∧
      ∀ d ds, cs.map Token.digitValue ≠ 0 :: d :: ds := by
  constructor
  · intro h
    refine ⟨h.digits, by simpa using h.filled, ?_⟩
    intro d ds zero
    cases cs with
    | nil => simp at zero
    | cons c cs =>
      rw [List.map_cons, List.cons.injEq] at zero
      obtain rfl := (digitValue_eq_zero (h.digits c List.mem_cons_self)).mp zero.1
      have alone := h.plain rfl
      rw [List.cons.injEq] at alone
      simp [alone.2] at zero
  · rintro ⟨valid, filled, plain⟩
    refine ⟨⟨by simpa using filled, valid⟩, ?_⟩
    intro zero
    cases cs with
    | nil => simp at zero
    | cons c cs =>
      obtain rfl : c = '0' := by simpa using zero
      cases cs with
      | nil => rfl
      | cons d cs => exact absurd rfl (plain _ _)

/-- The rest of a number after its sign. -/
def unsigned? (negative : Bool) (cs : List Char) : Option (Number × List Char) := do
  let (whole, cs) ←
    match Token.digits cs with
    | ([], _) => none
    | (0 :: _ :: _, _) => none
    | (ds, rest) => some (ds, rest)
  let (fraction, cs) ← Token.fraction? cs
  let (exponent, cs) ← Token.exponent? cs
  return (← Token.Numeral.value? ⟨negative, whole, fraction, exponent⟩, cs)

theorem number?_minus (cs : List Char) : Token.number? ('-' :: cs) = unsigned? true cs := rfl

theorem number?_unsigned (h : ∀ cs', cs ≠ '-' :: cs') : Token.number? cs = unsigned? false cs := by
  unfold Token.number?
  split
  rename_i negative rest' same
  split at same
  case h_1 => exact absurd rfl (h _)
  case h_2 =>
    obtain ⟨rfl, rfl⟩ := Prod.mk.inj same
    rfl

theorem Grammar.Unsigned.exists_cons {negative : Bool} (h : Unsigned negative text numeral) :
    ∃ c cs, text = c :: cs ∧ c.isDigit = true := by
  cases h with
  | intro digits =>
    obtain ⟨c, cs, rfl⟩ := List.exists_cons_of_ne_nil digits.filled
    exact ⟨c, _, rfl, digits.digits c List.mem_cons_self⟩

theorem unsigned?_append {negative : Bool} (h : Unsigned negative text numeral)
    (value : numeral.value? = some n) (stop : Stops rest) :
    unsigned? negative (text ++ rest) = some (n, rest) := by
  cases h with
  | @intro whole fractionText fraction exponentText exponent digits places scale =>
    obtain ⟨valid, filled, plain⟩ := whole_iff.mp digits
    have after_exponent := exponent?_append scale fun c first =>
      ⟨(stop c first).1, (stop c first).2.2⟩
    have after_fraction := fraction?_append places (scale.stops stop)
    have after_whole := digits_append valid (places.stops (scale.stops stop))
    rw [List.append_assoc, List.append_assoc, unsigned?, after_whole]
    split
    case h_1 same => exact absurd (Prod.mk.inj same).1 filled
    case h_2 same => exact absurd (Prod.mk.inj same).1 (plain _ _)
    case h_3 same =>
      obtain ⟨rfl, rfl⟩ := Prod.mk.inj same
      simp [after_fraction, after_exponent, value]

theorem exists_unsigned {negative : Bool} (h : unsigned? negative cs = some (n, rest)) :
    ∃ text numeral, Unsigned negative text numeral ∧ numeral.value? = some n ∧
      cs = text ++ rest := by
  unfold unsigned? at h
  obtain ⟨digits, after, rfl, valid, read⟩ := exists_digits cs
  rw [read] at h
  split at h
  case h_1 => simp at h
  case h_2 => simp at h
  case h_3 ds rest' filled plain same =>
    obtain ⟨rfl, rfl⟩ := Prod.mk.inj same
    simp only [Option.bind_eq_bind, Option.bind_some, Option.bind_eq_some_iff, Option.pure_def,
      Option.some.injEq, Prod.mk.injEq] at h
    obtain ⟨⟨fraction, after_fraction⟩, places, ⟨exponent, after_exponent⟩, scale, _, value, rfl,
      rfl⟩ := h
    obtain ⟨fractionText, fractional, rfl⟩ := exists_fraction places
    obtain ⟨exponentText, scaled, rfl⟩ := exists_exponent scale
    have whole : Whole digits := by
      refine whole_iff.mpr ⟨valid, ?_, ?_⟩
      · intro empty
        exact filled empty
      · intro d ds zero
        exact plain d ds zero
    exact ⟨_, _, .intro whole fractional scaled, value, by simp⟩

theorem number?_append (h : Signed text numeral) (value : numeral.value? = some n)
    (stop : Stops rest) : Token.number? (text ++ rest) = some (n, rest) := by
  cases h with
  | positive magnitude =>
    rw [number?_unsigned]
    · exact unsigned?_append magnitude value stop
    · obtain ⟨c, cs, rfl, digit⟩ := magnitude.exists_cons
      rintro cs' same
      obtain ⟨rfl, -⟩ := List.cons.inj same
      contradiction
  | negative magnitude =>
    rw [List.cons_append, number?_minus]
    exact unsigned?_append magnitude value stop

theorem Grammar.Signed.exists_cons (h : Signed text numeral) :
    ∃ c cs, text = c :: cs ∧ (c = '-' ∨ c.isDigit = true) := by
  cases h with
  | positive magnitude =>
    obtain ⟨c, cs, rfl, digit⟩ := magnitude.exists_cons
    exact ⟨c, cs, rfl, .inr digit⟩
  | negative => exact ⟨'-', _, rfl, .inl rfl⟩

theorem exists_signed (h : Token.number? cs = some (n, rest)) :
    ∃ text numeral, Signed text numeral ∧ numeral.value? = some n ∧ cs = text ++ rest := by
  by_cases minus : ∃ cs', cs = '-' :: cs'
  · obtain ⟨cs', rfl⟩ := minus
    rw [number?_minus] at h
    obtain ⟨text, numeral, magnitude, value, rfl⟩ := exists_unsigned h
    exact ⟨_, numeral, .negative magnitude, value, rfl⟩
  · rw [number?_unsigned (by simpa using minus)] at h
    obtain ⟨text, numeral, magnitude, value, rfl⟩ := exists_unsigned h
    exact ⟨text, numeral, .positive magnitude, value, rfl⟩

end Numerals

end Numbers

end SignedAdmission.Json
