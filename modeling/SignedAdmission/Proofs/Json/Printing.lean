import SignedAdmission.Json.Printer
import SignedAdmission.Json.Token
import SignedAdmission.Proofs.Bytes.Utf8
import SignedAdmission.Proofs.Decimal.Notation

/-! The compact form of values. No text of a value is the beginning of another one, so that a text
belongs to one value only, with its fields in their order. -/
namespace SignedAdmission.Json

section Strings

variable {c : Char} {cs text rest : List Char}

/-- A letter after a backslash stands for one character. -/
theorem quoted?_escaped {letter : Char} (named : Token.escaped? letter = some c)
    (h : Token.quoted? text = some (cs, rest)) :
    Token.quoted? ('\\' :: letter :: text) = some (c :: cs, rest) := by
  have other : letter ≠ 'u' := by
    rintro rfl
    simp [Token.escaped?] at named
  rw [Token.quoted?]
  · simp [named, h]
  · rintro _ _ _ _ _ rfl
    contradiction

/-- Control characters have four hexadecimal digits. -/
theorem quoted?_control (control : c.toNat < 0x20) (h : Token.quoted? text = some (cs, rest)) :
    Token.quoted? ('\\' :: 'u' :: '0' :: '0' :: hexDigit (c.toNat / 16) ::
      hexDigit (c.toNat % 16) :: text) = some (c :: cs, rest) := by
  have unit : ∀ n ∈ List.range 0x20,
      Token.hex4? '0' '0' (hexDigit (n / 16)) (hexDigit (n % 16)) = some n := by decide
  have value := unit c.toNat (List.mem_range.mpr control)
  have low : ¬ 0xD800 ≤ c.toNat := by omega
  have lower : ¬ 0xDC00 ≤ c.toNat := by omega
  rw [Token.quoted?]
  simp [value, low, lower, h]

theorem quoted?_plain (quote : c ≠ '"') (backslash : c ≠ '\\') (printed : ¬ c.toNat < 0x20)
    (h : Token.quoted? text = some (cs, rest)) :
    Token.quoted? (c :: text) = some (c :: cs, rest) := by
  rw [Token.quoted?]
  · simp [printed, h]
  · exact quote
  · exact fun _ _ _ _ _ same _ => backslash same
  · exact fun _ _ same _ => backslash same

theorem quoted?_escape (h : Token.quoted? text = some (cs, rest)) :
    Token.quoted? (escape c ++ text) = some (c :: cs, rest) := by
  unfold escape
  split
  case h_8 quote backslash _ _ _ _ _ =>
    split
    case isTrue control => exact quoted?_control control h
    case isFalse printed => exact quoted?_plain quote backslash printed h
  all_goals exact quoted?_escaped rfl h

/-- A string is read back up to its closing quote. -/
theorem quoted?_stringText (cs rest : List Char) :
    Token.quoted? (cs.flatMap escape ++ '"' :: rest) = some (cs, rest) := by
  induction cs with
  | nil => rfl
  | cons c cs ih =>
    rw [List.flatMap_cons, List.append_assoc]
    exact quoted?_escape ih

/-- A string ends with its closing quote. -/
theorem stringText_cancel {s t : String} {rest rest' : List Char}
    (h : stringText s ++ rest = stringText t ++ rest') : s = t ∧ rest = rest' := by
  simp only [stringText, List.cons_append, List.append_assoc, List.cons.injEq, true_and,
    List.nil_append] at h
  have read := congrArg Token.quoted? h
  rw [quoted?_stringText, quoted?_stringText, Option.some.injEq, Prod.mk.injEq] at read
  exact ⟨String.toList_inj.mp read.1, read.2⟩

end Strings

open Numeral.Parts (isNumberChar)

section Numbers

/-- Numbers in the form that reading gives them. -/
def Number.Canonical : Number → Prop
  | .int _ => True
  | .float x => x.Canonical

theorem intText_injective {i j : ℤ} (h : intText i = intText j) : i = j := by
  have unsigned (n : ℕ) (cs : List Char) : Nat.toDigits 10 n ≠ '-' :: cs := by
    intro signed
    have digit : ('-').isDigit = true :=
      Decimal.isDigit_of_mem_toDigits (n := n) _ (signed ▸ List.mem_cons_self)
    contradiction
  have magnitude (h : Nat.toDigits 10 i.natAbs = Nat.toDigits 10 j.natAbs) :
      i.natAbs = j.natAbs := by
    simpa using congrArg (Nat.ofDigitChars 10 · 0) h
  rw [intText, intText] at h
  by_cases left : i < 0 <;> by_cases right : j < 0 <;>
    simp only [left, right, if_true, if_false, List.cons_append, List.nil_append,
      List.cons.injEq, true_and] at h
  · have same := magnitude h
    omega
  · exact absurd h.symm (unsigned _ _)
  · exact absurd h (unsigned _ _)
  · have same := magnitude h
    omega

theorem exists_parts (x : Binary64) :
    ∃ parts : Numeral.Parts, parts.Valid ∧
      (Number.float x).text = (if x.negative then ['-'] else []) ++ parts.text := by
  obtain ⟨parts, valid, written, -⟩ := @Binary64.exists_parts floatForm rfl x
  exact ⟨parts, valid, written⟩

theorem Number.isNumberChar_text (n : Number) : ∀ c ∈ n.text, isNumberChar c = true := by
  cases n with
  | int i =>
    refine List.forall_mem_append.mpr ⟨?_, fun c member => ?_⟩
    · split <;> simp [isNumberChar]
    · exact Numeral.Parts.isNumberChar_of_isDigit (Decimal.isDigit_of_mem_toDigits c member)
  | float x =>
    obtain ⟨parts, valid, written⟩ := exists_parts x
    rw [written]
    refine List.forall_mem_append.mpr ⟨?_, Numeral.Parts.isNumberChar_text valid⟩
    split <;> simp [isNumberChar]

theorem Number.text_ne_nil (n : Number) : n.text ≠ [] := by
  cases n with
  | int i => simp [text, intText, Nat.toDigits_ne_nil]
  | float x =>
    obtain ⟨parts, valid, written⟩ := exists_parts x
    simp [written, Numeral.Parts.text, valid.some_digit]

/-- Integers are written without a point or an exponent. -/
theorem intText_ne_float (i : ℤ) (x : Binary64) : intText i ≠ (Number.float x).text := by
  intro same
  obtain ⟨parts, valid, written⟩ := exists_parts x
  have plain {c : Char} (member : c ∈ (Number.float x).text) : c = '-' ∨ c.isDigit = true := by
    rw [← same, intText, List.mem_append] at member
    obtain sign | digit := member
    · split at sign <;> simp_all
    · exact .inr (Decimal.isDigit_of_mem_toDigits c digit)
  rw [written] at plain
  obtain point | exponent := Numeral.Parts.mark_mem_text valid
  · simpa using plain (List.mem_append_right _ point)
  · simpa using plain (List.mem_append_right _ exponent)

/-- Different numbers are written differently. -/
theorem Number.text_injective {m n : Number} (hm : m.Canonical) (hn : n.Canonical)
    (h : m.text = n.text) : m = n := by
  cases m with
  | int i =>
    cases n with
    | int j => exact congrArg _ (intText_injective h)
    | float y => exact absurd h (intText_ne_float i y)
  | float x =>
    cases n with
    | int j => exact absurd h.symm (intText_ne_float j x)
    | float y => exact congrArg _ (Binary64.format_injective rfl hm hn h)

/-- What follows a number does not continue it. -/
def Ends (rest : List Char) : Prop :=
  ∀ c ∈ rest.head?, isNumberChar c = false

/-- A number ends where what follows it begins. -/
theorem Number.text_cancel {m n : Number} {rest rest' : List Char} (hm : m.Canonical)
    (hn : n.Canonical) (ends : Ends rest) (ends' : Ends rest')
    (h : m.text ++ rest = n.text ++ rest') : m = n ∧ rest = rest' := by
  have front {number : Number} {rest : List Char} (ends : Ends rest) :
      (number.text ++ rest).takeWhile isNumberChar = number.text := by
    rw [List.takeWhile_append_of_pos number.isNumberChar_text]
    cases rest with
    | nil => simp
    | cons c rest => simp [ends c rfl]
  have same : m.text = n.text := by rw [← front ends, h, front ends']
  obtain rfl := Number.text_injective hm hn same
  exact ⟨rfl, List.append_cancel_left h⟩

end Numbers

section Values

/-- Values whose numbers are all in canonical form. -/
inductive Canonical : Json → Prop
  | null : Canonical .null
  | bool (b : Bool) : Canonical (.bool b)
  | number {n : Number} (h : n.Canonical) : Canonical (.number n)
  | string (s : String) : Canonical (.string s)
  | array {items : List Json} (h : ∀ item ∈ items, Canonical item) : Canonical (.array items)
  | object {fields : Fields} (h : ∀ field ∈ fields, Canonical field.2) :
    Canonical (.object fields)

namespace Canonical

variable {n : Number} {items : List Json} {fields : Fields}

theorem of_number (h : (Json.number n).Canonical) : n.Canonical := by
  cases h with
  | number h => exact h

theorem of_items (h : (Json.array items).Canonical) : ∀ item ∈ items, item.Canonical := by
  cases h with
  | array h => exact h

theorem of_fields (h : (Json.object fields).Canonical) : ∀ field ∈ fields, field.2.Canonical := by
  cases h with
  | object h => exact h

end Canonical

/-- The character that a value begins with; a digit stands for those of all numbers. -/
def lead : Json → Char
  | .null => 'n'
  | .bool true => 't'
  | .bool false => 'f'
  | .number _ => '0'
  | .string _ => '"'
  | .array _ => '['
  | .object _ => '\x7b'

theorem lead_eq (value : Json) (rest : List Char) :
    (value.text ++ rest).head?.map (fun c => if isNumberChar c then '0' else c) =
      some value.lead := by
  cases value with
  | number n =>
    obtain ⟨c, cs, front⟩ := List.exists_cons_of_ne_nil n.text_ne_nil
    have numeric := n.isNumberChar_text c (by simp [front])
    simp [text, front, numeric, lead]
  | bool b => cases b <;> rfl
  | null | string _ | array _ | object _ => rfl

/-- Two values of one kind, with one text if the kind has only that one. -/
inductive SameKind : Json → Json → Prop
  | null : SameKind .null .null
  | bool (b : Bool) : SameKind (.bool b) (.bool b)
  | number (m n : Number) : SameKind (.number m) (.number n)
  | string (s t : String) : SameKind (.string s) (.string t)
  | array (items others : List Json) : SameKind (.array items) (.array others)
  | object (fields others : Fields) : SameKind (.object fields) (.object others)

/-- Values that begin alike are of one kind. -/
theorem sameKind_of_lead {value other : Json} (h : value.lead = other.lead) :
    SameKind value other := by
  cases value with
  | bool b =>
    cases other with
    | bool b' => cases b <;> cases b' <;> first | exact .bool _ | simp [lead] at h
    | null | number _ | string _ | array _ | object _ => cases b <;> simp [lead] at h
  | null | number _ | string _ | array _ | object _ =>
    cases other with
    | bool b => cases b <;> simp [lead] at h
    | null | number _ | string _ | array _ | object _ => first | constructor | simp [lead] at h

/-- What follows an item of an array. -/
def moreItems : List Json → List Char
  | [] => []
  | item :: items => ',' :: itemsText (item :: items)

theorem itemsText_cons (item : Json) (items : List Json) :
    itemsText (item :: items) = text item ++ moreItems items := by
  cases items <;> simp [itemsText, moreItems]

/-- What follows a field of an object. -/
def moreFields : Fields → List Char
  | [] => []
  | field :: fields => ',' :: fieldsText (field :: fields)

theorem fieldsText_cons (key : String) (value : Json) (fields : Fields) :
    fieldsText ((key, value) :: fields) =
      stringText key ++ ':' :: (text value ++ moreFields fields) := by
  cases fields <;> simp [fieldsText, moreFields]

theorem ends_moreItems (items : List Json) (rest : List Char) :
    Ends (moreItems items ++ ']' :: rest) := by
  cases items <;> simp [Ends, moreItems, isNumberChar]

theorem ends_moreFields (fields : Fields) (rest : List Char) :
    Ends (moreFields fields ++ '\x7d' :: rest) := by
  cases fields <;> simp [Ends, moreFields, isNumberChar]

/-- No value begins with what ends an array. -/
theorem text_append_ne (value : Json) (rest rest' : List Char) :
    value.text ++ rest ≠ ']' :: rest' := by
  intro h
  have first := lead_eq value rest
  rw [h] at first
  have closing : ']' = value.lead := by simpa [isNumberChar] using first
  cases value with
  | bool b => cases b <;> simp [lead] at closing
  | null | number _ | string _ | array _ | object _ => simp [lead] at closing

theorem itemsText_of_moreItems {items others : List Json} {rest rest' : List Char}
    (h : moreItems items ++ ']' :: rest = moreItems others ++ ']' :: rest') :
    itemsText items ++ ']' :: rest = itemsText others ++ ']' :: rest' := by
  cases items <;> cases others <;> simp_all [moreItems, itemsText]

theorem fieldsText_of_moreFields {fields others : Fields} {rest rest' : List Char}
    (h : moreFields fields ++ '\x7d' :: rest = moreFields others ++ '\x7d' :: rest') :
    fieldsText fields ++ '\x7d' :: rest = fieldsText others ++ '\x7d' :: rest' := by
  cases fields <;> cases others <;> simp_all [moreFields, fieldsText]

mutual

/-- A value ends where what follows its text begins. -/
theorem text_cancel (value other : Json) {rest rest' : List Char} (hv : value.Canonical)
    (ho : other.Canonical) (ends : Ends rest) (ends' : Ends rest')
    (h : value.text ++ rest = other.text ++ rest') : value = other ∧ rest = rest' := by
  have same : value.lead = other.lead := by
    rw [← Option.some.injEq, ← lead_eq value rest, h, lead_eq]
  have kind := sameKind_of_lead same
  cases value with
  | null =>
    cases kind
    exact ⟨rfl, List.append_cancel_left h⟩
  | bool b =>
    cases kind
    exact ⟨rfl, List.append_cancel_left h⟩
  | number m =>
    cases kind with
    | number _ n =>
      rw [text, text] at h
      obtain ⟨rfl, rfl⟩ := Number.text_cancel hv.of_number ho.of_number ends ends' h
      exact ⟨rfl, rfl⟩
  | string s =>
    cases kind with
    | string _ t =>
      rw [text, text] at h
      obtain ⟨rfl, rfl⟩ := stringText_cancel h
      exact ⟨rfl, rfl⟩
  | array items =>
    cases kind with
    | array _ others =>
      simp only [text, List.cons_append, List.append_assoc, List.nil_append, List.cons.injEq,
        true_and] at h
      obtain ⟨rfl, rfl⟩ := itemsText_cancel items others hv.of_items ho.of_items h
      exact ⟨rfl, rfl⟩
  | object fields =>
    cases kind with
    | object _ others =>
      simp only [text, List.cons_append, List.append_assoc, List.nil_append, List.cons.injEq,
        true_and] at h
      obtain ⟨rfl, rfl⟩ := fieldsText_cancel fields others hv.of_fields ho.of_fields h
      exact ⟨rfl, rfl⟩

theorem itemsText_cancel (items others : List Json) {rest rest' : List Char}
    (hi : ∀ item ∈ items, item.Canonical) (ho : ∀ item ∈ others, item.Canonical)
    (h : itemsText items ++ ']' :: rest = itemsText others ++ ']' :: rest') :
    items = others ∧ rest = rest' := by
  cases items with
  | nil =>
    cases others with
    | nil => exact ⟨rfl, (List.cons.inj h).2⟩
    | cons other others =>
      rw [itemsText_cons, List.append_assoc] at h
      exact absurd h.symm (text_append_ne _ _ _)
  | cons item items =>
    cases others with
    | nil =>
      rw [itemsText_cons, List.append_assoc] at h
      exact absurd h (text_append_ne _ _ _)
    | cons other others =>
      rw [itemsText_cons, itemsText_cons, List.append_assoc, List.append_assoc] at h
      rw [List.forall_mem_cons] at hi ho
      obtain ⟨rfl, more⟩ := text_cancel item other hi.1 ho.1 (ends_moreItems _ _)
        (ends_moreItems _ _) h
      obtain ⟨rfl, rfl⟩ := itemsText_cancel items others hi.2 ho.2 (itemsText_of_moreItems more)
      exact ⟨rfl, rfl⟩

theorem fieldsText_cancel (fields others : Fields) {rest rest' : List Char}
    (hf : ∀ field ∈ fields, field.2.Canonical) (ho : ∀ field ∈ others, field.2.Canonical)
    (h : fieldsText fields ++ '\x7d' :: rest = fieldsText others ++ '\x7d' :: rest') :
    fields = others ∧ rest = rest' := by
  match fields, others with
  | [], [] => exact ⟨rfl, (List.cons.inj h).2⟩
  | [], (key, value) :: others => simp [fieldsText_cons, stringText, fieldsText] at h
  | (key, value) :: fields, [] => simp [fieldsText_cons, stringText, fieldsText] at h
  | (key, value) :: fields, (key', value') :: others =>
    rw [fieldsText_cons, fieldsText_cons, List.append_assoc, List.append_assoc] at h
    rw [List.forall_mem_cons] at hf ho
    obtain ⟨rfl, colon⟩ := stringText_cancel h
    simp only [List.cons_append, List.append_assoc, List.cons.injEq, true_and] at colon
    obtain ⟨rfl, more⟩ := text_cancel value value' hf.1 ho.1 (ends_moreFields _ _)
      (ends_moreFields _ _) colon
    obtain ⟨rfl, rfl⟩ := fieldsText_cancel fields others hf.2 ho.2 (fieldsText_of_moreFields more)
    exact ⟨rfl, rfl⟩

end

/-- Different values have different texts. -/
theorem text_injective {value other : Json} (hv : value.Canonical) (ho : other.Canonical)
    (h : value.text = other.text) : value = other := by
  have none_left : Ends [] := by simp [Ends]
  exact (text_cancel value other hv ho none_left none_left (congrArg (· ++ []) h)).1

/-- Different values have different bytes. -/
theorem bytes_injective {value other : Json} (hv : value.Canonical) (ho : other.Canonical)
    (h : value.bytes = other.bytes) : value = other := by
  have compact := Utf8.toList_toUTF8_injective h
  rw [Json.compact, Json.compact] at compact
  exact text_injective hv ho (String.ofList_injective compact)

end Values

end SignedAdmission.Json
