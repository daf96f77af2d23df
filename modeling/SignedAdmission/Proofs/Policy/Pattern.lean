import SignedAdmission.Proofs.Checks
import SignedAdmission.Proofs.Policy.Glob
import SignedAdmission.Proofs.Text.Split

/-! How patterns are read, and what they match. A pattern is read from left to right as a sequence
of elements, and matches a text exactly if the text can be cut into one part for each element. -/
namespace SignedAdmission.Glob

open Checks

/-- What a pattern is made of. A bracket lists characters, which it either stands for or excludes. -/
inductive Element where
  | char (c : Char)
  | anyChar
  | anyText
  | bracket (negated : Bool) (listed : List Char)
deriving DecidableEq, Repr

section Brackets

variable {cs listed after : List Char} {first : Char} {negated : Bool}

/-- What follows an opening bracket, up to the closing one and behind it. Something is always
listed: a closing bracket in first place does not close. -/
inductive Encloses : List Char → Bool → List Char → List Char → Prop
  | plain {first : Char} {listed after : List Char} (unmarked : first ≠ '!')
      (inside : ']' ∉ listed) :
      Encloses (first :: (listed ++ ']' :: after)) false (first :: listed) after
  | negated {first : Char} {listed after : List Char} (inside : ']' ∉ listed) :
      Encloses ('!' :: first :: (listed ++ ']' :: after)) true (first :: listed) after

/-- The text between the brackets. -/
def marked (negated : Bool) (listed : List Char) : List Char :=
  if negated then '!' :: listed else listed

theorem cut_closing (inside : ']' ∉ listed) (other : first ≠ ']') :
    Text.cut ']' (first :: (listed ++ ']' :: after)) = (first :: listed, some after) := by
  have free : ']' ∉ first :: listed := by
    rw [List.mem_cons, not_or]
    exact ⟨Ne.symm other, inside⟩
  exact Text.cut_append free

theorem bracketText?_plain (unmarked : first ≠ '!') (inside : ']' ∉ listed) :
    bracketText? (first :: (listed ++ ']' :: after)) = some (first :: listed, after) := by
  by_cases closing : first = ']'
  · subst closing
    simp [bracketText?, Text.cut_append inside]
  · simp [bracketText?, unmarked, closing, cut_closing inside closing]

theorem bracketText?_negated (inside : ']' ∉ listed) :
    bracketText? ('!' :: first :: (listed ++ ']' :: after)) =
      some ('!' :: first :: listed, after) := by
  by_cases closing : first = ']'
  · subst closing
    simp [bracketText?, Text.cut_append inside]
  · simp [bracketText?, closing, cut_closing inside closing]

theorem Encloses.bracketText?_eq (h : Encloses cs negated listed after) :
    bracketText? cs = some (marked negated listed, after) := by
  cases h with
  | plain unmarked inside => exact bracketText?_plain unmarked inside
  | negated inside => exact bracketText?_negated inside

/-- A bracket either ends somewhere, or nothing is read as one. -/
theorem encloses_or_none (cs : List Char) :
    (∃ negated listed after, Encloses cs negated listed after) ∨ bracketText? cs = none := by
  cases cs with
  | nil => exact .inr rfl
  | cons first rest =>
    by_cases unmarked : first = '!'
    · subst unmarked
      cases rest with
      | nil => exact .inr rfl
      | cons next rest =>
        obtain ⟨free, uncut⟩ | ⟨listed, after, rfl, inside, -⟩ := Text.cut_cases ']' rest
        · by_cases closing : next = ']' <;>
            simp [bracketText?, Text.cut, closing, uncut]
        · exact .inl ⟨true, next :: listed, after, .negated inside⟩
    · obtain ⟨free, uncut⟩ | ⟨listed, after, rfl, inside, -⟩ := Text.cut_cases ']' rest
      · by_cases closing : first = ']' <;>
          simp [bracketText?, Text.cut, unmarked, closing, uncut]
      · exact .inl ⟨false, first :: listed, after, .plain unmarked inside⟩

theorem bracketText?_of_unclosed (h : ∀ negated listed after, ¬ Encloses cs negated listed after) :
    bracketText? cs = none := by
  obtain ⟨negated, listed, after, closed⟩ | none := encloses_or_none cs
  · exact absurd closed (h negated listed after)
  · exact none

end Brackets

section Reading

/-- The elements of a pattern, from left to right. A bracket that does not end is an ordinary
character. -/
inductive Reads : List Char → List Element → Prop
  | nil : Reads [] []
  | anyText {rest elements} (more : Reads rest elements) :
      Reads ('*' :: rest) (.anyText :: elements)
  | anyChar {rest elements} (more : Reads rest elements) :
      Reads ('?' :: rest) (.anyChar :: elements)
  | bracket {rest negated listed after elements} (closed : Encloses rest negated listed after)
      (more : Reads after elements) : Reads ('[' :: rest) (.bracket negated listed :: elements)
  | opening {rest elements} (unclosed : ∀ negated listed after, ¬ Encloses rest negated listed after)
      (more : Reads rest elements) : Reads ('[' :: rest) (.char '[' :: elements)
  | char {c rest elements} (plain : isPlain c = true) (more : Reads rest elements) :
      Reads (c :: rest) (.char c :: elements)

variable {pattern rest : List Char} {elements : List Element}

/-- What an element is compiled to, if its bracket describes a set. -/
def Element.piece? : Element → Option Piece
  | .char c => some (.char c)
  | .anyChar => some .anyChar
  | .anyText => some .anyText
  | .bracket negated listed => (bracket? (marked negated listed)).map .bracket

theorem Encloses.length_lt {negated : Bool} {listed after : List Char}
    (h : Encloses rest negated listed after) : after.length < rest.length := by
  cases h <;> simp <;> omega

theorem mapM_piece?_cons (element : Element) (elements : List Element) :
    (element :: elements).mapM Element.piece? =
      element.piece?.bind fun piece => (elements.mapM Element.piece?).map (piece :: ·) := by
  rw [List.mapM_cons]
  cases element.piece? <;> cases elements.mapM Element.piece? <;> rfl

theorem exists_spare_fuel {c : Char} {fuel : ℕ} (enough : (c :: rest).length ≤ fuel) :
    ∃ spare, fuel = spare + 1 ∧ rest.length ≤ spare := by
  cases fuel with
  | zero => simp at enough
  | succ spare => exact ⟨spare, rfl, by simpa using enough⟩

/-- Elements are compiled one by one, as long as there is fuel for every character. -/
theorem Reads.piecesWith_eq (h : Reads pattern elements) {fuel : ℕ}
    (enough : pattern.length ≤ fuel) :
    piecesWith fuel pattern = elements.mapM Element.piece? := by
  induction h generalizing fuel with
  | nil => cases fuel <;> rfl
  | anyText more ih | anyChar more ih =>
    obtain ⟨spare, rfl, left⟩ := exists_spare_fuel enough
    rw [piecesWith, ih left, mapM_piece?_cons]
    rfl
  | @bracket rest negated listed after elements closed more ih =>
    obtain ⟨spare, rfl, left⟩ := exists_spare_fuel enough
    have later : after.length ≤ spare := Nat.le_trans (Nat.le_of_lt closed.length_lt) left
    rw [piecesWith, closed.bracketText?_eq, mapM_piece?_cons, ← ih later, Element.piece?]
    dsimp only
    cases bracket? (marked negated listed) <;> cases piecesWith spare after <;> rfl
  | opening unclosed more ih =>
    obtain ⟨spare, rfl, left⟩ := exists_spare_fuel enough
    rw [piecesWith, bracketText?_of_unclosed unclosed, ih left, mapM_piece?_cons]
    rfl
  | char plain more ih =>
    obtain ⟨spare, rfl, left⟩ := exists_spare_fuel enough
    rw [piecesWith_cons_plain plain, ih left, mapM_piece?_cons]
    rfl

theorem Reads.pieces?_eq (h : Reads pattern elements) :
    pieces? pattern = elements.mapM Element.piece? :=
  h.piecesWith_eq (Nat.le_refl _)

theorem exists_reads (pattern : List Char) : ∃ elements, Reads pattern elements := by
  induction size : pattern.length using Nat.strongRecOn generalizing pattern with
  | _ size ih =>
    subst size
    cases pattern with
    | nil => exact ⟨[], .nil⟩
    | cons c rest =>
      obtain ⟨elements, more⟩ := ih rest.length (by simp) rest rfl
      by_cases plain : isPlain c = true
      · exact ⟨.char c :: elements, .char plain more⟩
      · simp only [isPlain, Bool.and_eq_true, bne_iff_ne, not_and_or, not_not] at plain
        obtain (rfl | rfl) | rfl := plain
        · exact ⟨_, .anyText more⟩
        · exact ⟨_, .anyChar more⟩
        · by_cases closed : ∃ negated listed after, Encloses rest negated listed after
          · obtain ⟨negated, listed, after, closed⟩ := closed
            have shorter := closed.length_lt
            obtain ⟨elements, more⟩ := ih after.length (by simp; omega) after rfl
            exact ⟨_, .bracket closed more⟩
          · push Not at closed
            exact ⟨_, .opening closed more⟩

end Reading

section Parts

variable {pattern text : List Char} {elements : List Element} {pieces : List Piece}

/-- Two characters of a list with a hyphen between them are a range, from left to right, and all
others stand for themselves. -/
def listing : List Char → List Item
  | low :: '-' :: high :: rest => .range low high :: listing rest
  | c :: rest => .char c :: listing rest
  | [] => []

def Lists (listed : List Char) (c : Char) : Prop :=
  ∃ item ∈ listing listed, item.contains c = true

/-- The parts of a text that an element may stand for. -/
def Element.StandsFor : Element → List Char → Prop
  | .char c, part => part = [c]
  | .anyChar, part => ∃ c, part = [c]
  | .anyText, _ => True
  | .bracket negated listed, part => ∃ c, part = [c] ∧ (Lists listed c ↔ negated = false)

/-- A text can be cut into parts, in order, that the elements stand for. -/
def Cuts (elements : List Element) (text : List Char) : Prop :=
  ∃ parts : List (List Char), parts.flatten = text ∧
    List.Forall₂ Element.StandsFor elements parts

def Piece.StandsFor (piece : Piece) (part : List Char) : Prop :=
  piece = .anyText ∨ ∃ c, part = [c] ∧ piece.accepts c = true

theorem matches_iff_parts :
    Matches pieces text ↔
      ∃ parts : List (List Char), parts.flatten = text ∧
        List.Forall₂ Piece.StandsFor pieces parts := by
  constructor
  · intro matched
    induction matched with
    | nil => exact ⟨[], rfl, .nil⟩
    | one single accepted rest ih =>
      obtain ⟨parts, rfl, stands⟩ := ih
      exact ⟨_ :: parts, rfl, .cons (.inr ⟨_, rfl, accepted⟩) stands⟩
    | anyText skipped rest ih =>
      obtain ⟨parts, rfl, stands⟩ := ih
      exact ⟨skipped :: parts, rfl, .cons (.inl rfl) stands⟩
  · rintro ⟨parts, rfl, stands⟩
    induction stands with
    | nil => exact .nil
    | @cons piece part pieces parts first _ ih =>
      rw [List.flatten_cons]
      by_cases any : piece = .anyText
      · subst any
        exact .anyText part ih
      · obtain ⟨c, rfl, accepted⟩ := first.resolve_left any
        exact .one any accepted ih

/-- Pieces stand for the same parts as the elements that they are compiled from. -/
def Agree (element : Element) (piece : Piece) : Prop :=
  ∀ part, piece.StandsFor part ↔ element.StandsFor part

theorem covers_iff_cuts (agree : List.Forall₂ Agree elements pieces) :
    covers pieces text = true ↔ Cuts elements text := by
  have same (parts : List (List Char)) : List.Forall₂ Piece.StandsFor pieces parts ↔
      List.Forall₂ Element.StandsFor elements parts := by
    induction agree generalizing parts with
    | nil => simp only [List.forall₂_nil_left_iff]
    | cons first _ ih =>
      cases parts with
      | nil => simp
      | cons part parts => rw [List.forall₂_cons, List.forall₂_cons, first part, ih]
  rw [covers_iff, matches_iff_parts, Cuts]
  simp only [same]

/-- A pattern is compiled if each of its elements is, and means what its elements mean. -/
theorem Reads.exists_pieces (reads : Reads pattern elements)
    (each : ∀ element ∈ elements, ∃ piece, element.piece? = some piece ∧ Agree element piece) :
    ∃ pieces, pieces? pattern = some pieces ∧
      ∀ text, covers pieces text = true ↔ Cuts elements text := by
  obtain ⟨pieces, compiled⟩ := exists_forall₂ each
  refine ⟨pieces, ?_, ?_⟩
  · rw [reads.pieces?_eq, mapM_eq_some]
    exact compiled.imp fun _ _ h => h.1
  · intro text
    exact covers_iff_cuts (compiled.imp fun _ _ h => h.2)

theorem agree_char (c : Char) : Agree (.char c) (.char c) := by
  intro part
  simp [Piece.StandsFor, Element.StandsFor, Piece.accepts]

theorem agree_anyChar : Agree .anyChar .anyChar := by
  intro part
  simp [Piece.StandsFor, Element.StandsFor, Piece.accepts]

theorem agree_anyText : Agree .anyText .anyText := by
  intro part
  simp [Piece.StandsFor, Element.StandsFor]

end Parts

section Unbracketed

variable {pattern part : List Char} {elements : List Element}

/-- Nothing in a pattern is a bracket that ends. -/
def Unbracketed (pattern : List Char) : Prop :=
  ∀ before rest, pattern = before ++ '[' :: rest →
    ∀ negated listed after, ¬ Encloses rest negated listed after

theorem Unbracketed.tail {c : Char} (h : Unbracketed (c :: pattern)) : Unbracketed pattern := by
  intro before rest split
  exact h (c :: before) rest (by rw [split, List.cons_append])

/-- The parts of a text that a character stands for outside of brackets. -/
def StandsFor (c : Char) (part : List Char) : Prop :=
  if c = '*' then True else if c = '?' then ∃ d, part = [d] else part = [c]

def Element.ofChar (c : Char) : Element :=
  if c = '*' then .anyText else if c = '?' then .anyChar else .char c

theorem Element.standsFor_ofChar (c : Char) :
    (Element.ofChar c).StandsFor part ↔ Glob.StandsFor c part := by
  rw [ofChar, Glob.StandsFor]
  split
  · rfl
  · split <;> rfl

theorem Element.exists_piece_ofChar (c : Char) :
    ∃ piece, (ofChar c).piece? = some piece ∧ Agree (ofChar c) piece := by
  rw [ofChar]
  split
  · exact ⟨_, rfl, agree_anyText⟩
  · split
    · exact ⟨_, rfl, agree_anyChar⟩
    · exact ⟨_, rfl, agree_char c⟩

theorem Reads.eq_map_ofChar (h : Reads pattern elements) (unbracketed : Unbracketed pattern) :
    elements = pattern.map Element.ofChar := by
  induction h with
  | nil => rfl
  | anyText _ ih | anyChar _ ih | opening _ _ ih =>
    rw [ih unbracketed.tail]
    rfl
  | bracket closed => exact absurd closed (unbracketed [] _ rfl _ _ _)
  | @char c rest elements plain _ ih =>
    simp only [isPlain, Bool.and_eq_true, bne_iff_ne] at plain
    rw [ih unbracketed.tail, List.map_cons, Element.ofChar, if_neg plain.1.1, if_neg plain.1.2]

/-- A pattern in which no bracket ends is compiled, and covers a text exactly if the text can be cut
into one part for each character of the pattern, in order: any part for a `*`, one character for a
`?`, and for every other character the character itself. -/
theorem covers_unbracketed (unbracketed : Unbracketed pattern) :
    ∃ pieces, pieces? pattern = some pieces ∧
      ∀ text, covers pieces text = true ↔
        ∃ parts : List (List Char), parts.flatten = text ∧
          List.Forall₂ StandsFor pattern parts := by
  obtain ⟨elements, reads⟩ := exists_reads pattern
  obtain rfl := reads.eq_map_ofChar unbracketed
  have each : ∀ element ∈ pattern.map Element.ofChar,
      ∃ piece, element.piece? = some piece ∧ Agree element piece := by
    rw [List.forall_mem_map]
    intro c _
    exact Element.exists_piece_ofChar c
  obtain ⟨pieces, compiled, covered⟩ := reads.exists_pieces each
  refine ⟨pieces, compiled, ?_⟩
  intro text
  rw [covered, Cuts]
  simp only [List.forall₂_map_left_iff, Element.standsFor_ofChar]

/-- A pattern with a bracket that does not end: its closing bracket is in first place. -/
def openBracket : List Char :=
  ['[', '!', ']', '?', '*']

theorem unbracketed_openBracket : Unbracketed openBracket := by
  intro before rest split negated listed after closed
  have unread : bracketText? ['!', ']', '?', '*'] = none := by decide
  cases before with
  | nil =>
    obtain rfl : ['!', ']', '?', '*'] = rest := (List.cons.inj split).2
    have read := closed.bracketText?_eq
    rw [unread] at read
    contradiction
  | cons c before =>
    have inside : '[' ∈ ['!', ']', '?', '*'] := by
      rw [(List.cons.inj split).2]
      simp
    contradiction

theorem covers_unbracketed_openBracket :
    Unbracketed openBracket ∧
      ∃ pieces, pieces? openBracket = some pieces ∧
        ∀ text, covers pieces text = true ↔
          ∃ parts : List (List Char), parts.flatten = text ∧
            List.Forall₂ StandsFor openBracket parts :=
  ⟨unbracketed_openBracket, covers_unbracketed unbracketed_openBracket⟩

example : (pieces? openBracket).map (covers · "[!]\n/b".toList) = some true := by
  decide +kernel

end Unbracketed

end SignedAdmission.Glob
