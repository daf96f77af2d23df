import SignedAdmission.Proofs.Json.Literals

/-! The spelling of tokens, independent of how a text is scanned. A text is scanned to tokens exactly
if it spells them, where no number comes right after another one. -/
namespace SignedAdmission.Json

namespace Grammar

/-- How a token is written. -/
inductive Lexeme : List Char → Token → Prop
  | openArray : Lexeme ['['] .openArray
  | closeArray : Lexeme [']'] .closeArray
  | openObject : Lexeme ['\x7b'] .openObject
  | closeObject : Lexeme ['\x7d'] .closeObject
  | colon : Lexeme [':'] .colon
  | comma : Lexeme [','] .comma
  | null : Lexeme ['n', 'u', 'l', 'l'] .null
  | yes : Lexeme ['t', 'r', 'u', 'e'] (.bool true)
  | no : Lexeme ['f', 'a', 'l', 's', 'e'] (.bool false)
  | string {spelled cs} (quoted : Quoted spelled cs) :
    Lexeme ('"' :: (spelled ++ ['"'])) (.string (String.ofList cs))
  | number {text numeral n} (signed : Signed text numeral) (value : numeral.value? = some n) :
    Lexeme text (.number n)

/-- Tokens one after the other, with any number of blanks before, between and after them. -/
inductive Spells : List Char → List Token → Prop
  | nil : Spells [] []
  | blank {c cs tokens} (blank : Token.isBlank c = true) (rest : Spells cs tokens) :
    Spells (c :: cs) tokens
  | cons {text token cs tokens} (first : Lexeme text token) (rest : Spells cs tokens) :
    Spells (text ++ cs) (token :: tokens)

end Grammar

open Grammar

section Scanning

variable {text cs rest : List Char} {token : Token} {tokens : List Token}

theorem next?_number {c : Char} (h : c = '-' ∨ c.isDigit = true) :
    Token.next? (c :: cs) =
      (Token.number? (c :: cs)).map fun (n, rest) => (.number n, rest) := by
  unfold Token.next?
  split
  case h_11 => rfl
  all_goals
    rename_i same
    obtain ⟨rfl, -⟩ := List.cons.inj same
    simp at h

/-- A token is found where a spelling of it begins, unless a number goes on. -/
theorem next?_append (h : Lexeme text token) (stop : ∀ n, token = .number n → Stops rest) :
    Token.next? (text ++ rest) = some (token, rest) := by
  cases h with
  | string quoted =>
    rw [List.cons_append, List.append_assoc, List.singleton_append, Token.next?,
      quoted?_append quoted]
    rfl
  | number signed value =>
    obtain ⟨c, cs, rfl, first⟩ := signed.exists_cons
    rw [List.cons_append, next?_number first, ← List.cons_append,
      number?_append signed value (stop _ rfl)]
    rfl
  | _ => rfl

theorem exists_lexeme (h : Token.next? cs = some (token, rest)) :
    ∃ text, Lexeme text token ∧ cs = text ++ rest := by
  unfold Token.next? at h
  split at h
  case h_10 cs =>
    obtain ⟨⟨cs, rest⟩, read, same⟩ := Option.map_eq_some_iff.mp h
    obtain ⟨rfl, rfl⟩ := Prod.mk.inj same
    obtain ⟨spelled, quoted, rfl⟩ := exists_quoted read
    exact ⟨_, .string quoted, by simp⟩
  case h_11 =>
    obtain ⟨⟨n, rest⟩, read, same⟩ := Option.map_eq_some_iff.mp h
    obtain ⟨rfl, rfl⟩ := Prod.mk.inj same
    obtain ⟨text, numeral, signed, value, rfl⟩ := exists_signed read
    exact ⟨text, .number signed value, rfl⟩
  all_goals
    obtain ⟨rfl, rfl⟩ := Prod.mk.inj (Option.some.inj h)
    exact ⟨_, by constructor, rfl⟩

theorem Grammar.Lexeme.filled (h : Lexeme text token) : text ≠ [] := by
  cases h with
  | number signed =>
    obtain ⟨c, cs, rfl, -⟩ := signed.exists_cons
    exact List.cons_ne_nil c cs
  | _ => exact List.cons_ne_nil _ _

theorem isBlank_iff {c : Char} :
    Token.isBlank c = true ↔ c = ' ' ∨ c = '\t' ∨ c = '\n' ∨ c = '\r' := by
  simp [Token.isBlank, or_assoc]

/-- No token begins with a blank. -/
theorem Grammar.Lexeme.isBlank_head (h : Lexeme text token) :
    ∀ c ∈ text.head?, Token.isBlank c = false := by
  cases h with
  | number signed =>
    obtain ⟨c, cs, rfl, first⟩ := signed.exists_cons
    rintro d same
    obtain rfl := Option.some.inj same
    rw [Bool.eq_false_iff]
    intro blank
    rcases isBlank_iff.mp blank with rfl | rfl | rfl | rfl <;> simp at first
  | _ =>
    rintro c same
    obtain rfl := Option.some.inj same
    decide

theorem spells_of_scanWith {fuel : ℕ} (h : Token.scanWith fuel cs = some tokens) :
    Spells cs tokens := by
  induction fuel generalizing cs tokens with
  | zero =>
    cases cs with
    | nil =>
      obtain rfl := Option.some.inj h
      exact .nil
    | cons c cs => simp [Token.scanWith] at h
  | succ fuel ih =>
    cases cs with
    | nil =>
      obtain rfl := Option.some.inj h
      exact .nil
    | cons c cs =>
      rw [Token.scanWith] at h
      split at h
      case isTrue blank => exact .blank blank (ih h)
      case isFalse =>
        simp only [Option.bind_eq_bind, Option.bind_eq_some_iff, Option.pure_def,
          Option.some.injEq] at h
        obtain ⟨⟨token, rest⟩, first, later, scanned, rfl⟩ := h
        obtain ⟨text, lexeme, split⟩ := exists_lexeme first
        rw [split]
        exact .cons lexeme (ih scanned)

/-- Two numbers that come one after the other are not told apart. -/
def Apart : Token → Token → Prop
  | .number _, .number _ => False
  | _, _ => True

theorem Grammar.Spells.stops (h : Spells cs tokens) (apart : ∀ n, .number n ∉ tokens.head?) :
    Stops cs := by
  cases h with
  | nil => simp [Stops]
  | blank blank =>
    rintro c same
    obtain rfl := Option.some.inj same
    rcases isBlank_iff.mp blank with rfl | rfl | rfl | rfl <;> decide
  | cons first =>
    cases first with
    | number => exact absurd rfl (apart _)
    | _ =>
      rintro c same
      obtain rfl := Option.some.inj same
      decide

theorem scanWith_of_spells {fuel : ℕ} (h : Spells cs tokens) (apart : tokens.IsChain Apart)
    (enough : cs.length ≤ fuel) : Token.scanWith fuel cs = some tokens := by
  induction h generalizing fuel with
  | nil => cases fuel <;> rfl
  | blank blank _ ih =>
    cases fuel with
    | zero => simp at enough
    | succ fuel =>
      rw [Token.scanWith, if_pos blank]
      exact ih apart (by simpa using enough)
  | @cons text token cs tokens first rest ih =>
    obtain ⟨c, cs', rfl⟩ := List.exists_cons_of_ne_nil first.filled
    cases fuel with
    | zero => simp at enough
    | succ fuel =>
      have begins : Token.isBlank c = false := first.isBlank_head c rfl
      -- What comes after a number is a blank, the end, or a token that is no number.
      have stop : ∀ n, token = .number n → Stops cs := by
        rintro n rfl
        apply rest.stops
        intro m next
        obtain ⟨tokens', rfl⟩ := List.head?_eq_some_iff.mp next
        exact (List.isChain_cons_cons.mp apart).1
      have later : cs.length ≤ fuel := by
        simp only [List.cons_append, List.length_cons, List.length_append] at enough
        omega
      have found := next?_append first stop
      rw [List.cons_append] at found ⊢
      simp [Token.scanWith, begins, found, ih apart.of_cons later]

/-- A text is scanned to tokens that are kept apart exactly if it spells them. -/
theorem scan?_eq_some_iff (apart : tokens.IsChain Apart) :
    Token.scan? cs = some tokens ↔ Spells cs tokens := by
  constructor
  · intro scanned
    exact spells_of_scanWith scanned
  · intro spells
    exact scanWith_of_spells spells apart le_rfl

end Scanning

end SignedAdmission.Json
