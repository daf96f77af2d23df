import Mathlib.Data.List.Basic
import SignedAdmission.Policy.Glob

/-! What globs match. A table over the suffixes of a text decides it, and agrees with a relation
that splits the text among the pieces. -/
namespace SignedAdmission.Glob

/-- Pieces match a text that is made of one character for each piece, and of any text for each
`*`. -/
inductive Matches : List Piece → List Char → Prop
  | nil : Matches [] []
  | one {piece c pieces cs} (single : piece ≠ .anyText) (accepted : piece.accepts c = true)
    (rest : Matches pieces cs) : Matches (piece :: pieces) (c :: cs)
  | anyText {pieces cs} (skipped : List Char) (rest : Matches pieces cs) :
    Matches (.anyText :: pieces) (skipped ++ cs)

section Table

variable {piece : Piece} {pieces : List Piece} {c : Char} {cs : List Char}

/-- The table of a longer text is one entry longer. -/
theorem suffixMatches_cons (c : Char) (cs : List Char) (pieces : List Piece) :
    suffixMatches (c :: cs) pieces = covers pieces (c :: cs) :: suffixMatches cs pieces := by
  induction pieces with
  | nil => rfl
  | cons piece pieces ih =>
    rw [covers, suffixMatches, extend, ih]
    rfl

theorem covers_nil_nil : covers [] [] = true := rfl

theorem covers_nil_cons : covers [] (c :: cs) = false := rfl

theorem covers_one_nil (single : piece ≠ .anyText) : covers (piece :: pieces) [] = false := by
  rw [covers, suffixMatches, extend, if_neg single]
  cases suffixMatches [] pieces <;> rfl

theorem covers_anyText_nil : covers (.anyText :: pieces) [] = covers pieces [] := rfl

theorem covers_one_cons (single : piece ≠ .anyText) :
    covers (piece :: pieces) (c :: cs) = (piece.accepts c && covers pieces cs) := by
  rw [covers, suffixMatches, suffixMatches_cons, extend, if_neg single]
  rfl

/-- A `*` either ends before a character or goes on after it. -/
theorem covers_anyText_cons :
    covers (.anyText :: pieces) (c :: cs) =
      (covers pieces (c :: cs) || covers (.anyText :: pieces) cs) := by
  rw [covers, suffixMatches, suffixMatches_cons, extend]
  rfl

theorem covers_iff : covers pieces cs = true ↔ Matches pieces cs := by
  constructor
  · intro covered
    induction pieces generalizing cs with
    | nil =>
      cases cs with
      | nil => exact .nil
      | cons c cs => simp [covers_nil_cons] at covered
    | cons piece pieces ih =>
      by_cases single : piece = .anyText
      · subst single
        induction cs with
        | nil =>
          rw [covers_anyText_nil] at covered
          exact .anyText [] (ih covered)
        | cons c cs longer =>
          rw [covers_anyText_cons, Bool.or_eq_true] at covered
          obtain here | later := covered
          · exact .anyText [] (ih here)
          · -- Whatever the `*` stands for after the character, it stands for one more with it.
            cases longer later with
            | one single => exact absurd rfl single
            | anyText skipped rest => exact .anyText (c :: skipped) rest
      · cases cs with
        | nil => simp [covers_one_nil single] at covered
        | cons c cs =>
          rw [covers_one_cons single, Bool.and_eq_true] at covered
          exact .one single covered.1 (ih covered.2)
  · intro matched
    induction matched with
    | nil => exact covers_nil_nil
    | one single accepted _ ih => rw [covers_one_cons single, accepted, ih, Bool.and_true]
    | @anyText pieces cs skipped rest ih =>
      induction skipped with
      | nil =>
        cases cs with
        | nil => rwa [List.append_nil, covers_anyText_nil]
        | cons c cs => rw [List.nil_append, covers_anyText_cons, ih, Bool.true_or]
      | cons c skipped longer => rw [List.cons_append, covers_anyText_cons, longer, Bool.or_true]

end Table

section Literals

variable {pieces : List Piece} {cs text : List Char} {fuel : Nat}

/-- Characters of a pattern that stand for themselves wherever they are. -/
def isPlain (c : Char) : Bool :=
  c != '*' && c != '?' && c != '['

def literal (cs : List Char) : List Piece :=
  cs.map .char

/-- A text and any tag. -/
def tagged (cs : List Char) : List Piece :=
  literal cs ++ [.char ':', .anyText]

theorem piecesWith_cons_plain {c : Char} (plain : isPlain c = true) (rest : List Char) :
    piecesWith (fuel + 1) (c :: rest) = (piecesWith fuel rest).map (.char c :: ·) := by
  rw [piecesWith]
  all_goals
    rintro rfl
    contradiction

/-- A plain text in front of a pattern is read as itself. -/
theorem piecesWith_plain (plain : ∀ c ∈ cs, isPlain c = true) (rest : List Char) :
    piecesWith (cs.length + fuel) (cs ++ rest) =
      (piecesWith fuel rest).map (literal cs ++ ·) := by
  induction cs with
  | nil => simp [literal]
  | cons c cs ih =>
    rw [List.forall_mem_cons] at plain
    rw [List.length_cons, Nat.add_right_comm, List.cons_append,
      piecesWith_cons_plain plain.1, ih plain.2, Option.map_map]
    rfl

theorem pieces?_tagged (plain : ∀ c ∈ cs, isPlain c = true) :
    pieces? (cs ++ [':', '*']) = some (tagged cs) := by
  rw [pieces?, List.length_append, piecesWith_plain plain]
  rfl

theorem matches_char {c : Char} :
    Matches (.char c :: pieces) text ↔ ∃ rest, text = c :: rest ∧ Matches pieces rest := by
  constructor
  · intro matched
    cases matched with
    | one _ accepted rest =>
      obtain rfl := beq_iff_eq.mp accepted
      exact ⟨_, rfl, rest⟩
  · rintro ⟨rest, rfl, matched⟩
    exact .one (by simp) (beq_self_eq_true c) matched

theorem matches_literal :
    Matches (literal cs ++ pieces) text ↔ ∃ rest, text = cs ++ rest ∧ Matches pieces rest := by
  induction cs generalizing text with
  | nil => simp [literal]
  | cons c cs ih =>
    rw [literal, List.map_cons, List.cons_append, matches_char]
    constructor
    · rintro ⟨after, rfl, matched⟩
      obtain ⟨rest, rfl, left⟩ := ih.mp matched
      exact ⟨rest, rfl, left⟩
    · rintro ⟨rest, rfl, matched⟩
      exact ⟨cs ++ rest, rfl, ih.mpr ⟨rest, rfl, matched⟩⟩

theorem matches_anyText : Matches [.anyText] text := by
  simpa using Matches.anyText text .nil

theorem covers_tagged : covers (tagged cs) text = true ↔ cs ++ [':'] <+: text := by
  rw [covers_iff, tagged, matches_literal]
  constructor
  · rintro ⟨after, rfl, matched⟩
    obtain ⟨tag, rfl, -⟩ := matches_char.mp matched
    exact ⟨tag, by simp⟩
  · rintro ⟨tag, rfl⟩
    exact ⟨':' :: tag, by simp, matches_char.mpr ⟨tag, rfl, matches_anyText⟩⟩

end Literals

end SignedAdmission.Glob
