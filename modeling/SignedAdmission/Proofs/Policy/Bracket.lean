import Mathlib.Data.Option.Basic
import SignedAdmission.Proofs.Policy.Pattern

/-! What brackets stand for. Where no two neighbours in a list are an operator, a bracket has just
the characters that are listed, or just the others. Operators, and a `^` in first place, give it
another meaning. -/
namespace SignedAdmission.Glob

section Items

variable {cs listed : List Char} {negated : Bool}

/-- A range that does not run backwards. -/
def Item.ascends : Item → Bool
  | .char _ => true
  | .range low high => low ≤ high

/-- No two neighbours are an operator that combines lists. -/
def WithoutOperators (cs : List Char) : Prop :=
  cs.IsChain fun c next => ¬ (c = next ∧ c ∈ ['&', '-', '~'])

theorem WithoutOperators.tail {c : Char} (h : WithoutOperators (c :: cs)) : WithoutOperators cs := by
  cases cs with
  | nil => exact .nil
  | cons next cs => exact (List.isChain_cons_cons.mp h).2

theorem WithoutOperators.not_doubled {c : Char} (h : WithoutOperators (c :: c :: cs)) :
    c ∉ ['&', '-', '~'] := by
  intro operator
  exact (List.isChain_cons_cons.mp h).1 ⟨rfl, operator⟩

/-- Lists without operators are read as they are, unless a range runs backwards. -/
theorem items?_eq (plain : WithoutOperators cs) :
    items? cs = if (listing cs).all Item.ascends then some (listing cs, []) else none := by
  induction cs using listing.induct with
  | case1 low high rest ih =>
    have low_plain : low ≠ '-' := by
      rintro rfl
      exact absurd plain.not_doubled (by decide)
    have high_plain : high ≠ '-' := by
      rintro rfl
      exact absurd plain.tail.not_doubled (by decide)
    rw [items?.eq_6 _ _ _ low_plain high_plain, ih plain.tail.tail.tail, listing, List.all_cons,
      Item.ascends]
    by_cases ascends : low ≤ high
    · simp only [ascends, if_true, decide_true, Bool.true_and]
      split <;> rfl
    · simp [ascends]
  | case2 c rest single ih =>
    have alone {next : Char} {more : List Char} (operator : next ∈ ['&', '-', '~']) :
        c = next → rest = next :: more → False := by
      rintro rfl rfl
      exact plain.not_doubled operator
    rw [items?.eq_7 _ _ (fun _ => alone (by simp)) (fun _ => alone (by simp))
      (fun _ => alone (by simp)) (fun more => single '-' more) single, ih plain.tail,
      listing.eq_2 _ _ single, List.all_cons, Item.ascends, Bool.true_and]
    split <;> rfl
  | case3 => rfl

/-- A list that a bracket may have: it has no operators, and what stands in first place neither
negates it nor, if it is a closing bracket, begins a range. -/
structure Plain (negated : Bool) (listed : List Char) : Prop where
  operators : WithoutOperators listed
  caret : negated = false → listed.head? ≠ some '^'
  closing : ∀ high rest, listed ≠ ']' :: '-' :: high :: rest

/-- What stands for itself in first place is listed like everything else. -/
theorem Plain.listing_leading (h : Plain negated listed) :
    WithoutOperators (leading listed).2 ∧
      listing listed = (leading listed).1.map .char ++ listing (leading listed).2 := by
  cases listed with
  | nil => exact ⟨.nil, rfl⟩
  | cons first rest =>
    by_cases closing : first = ']'
    · subst closing
      have single : ∀ high more, rest = '-' :: high :: more → False := by
        rintro high more rfl
        exact h.closing high more rfl
      exact ⟨h.operators.tail, listing.eq_2 _ _ single⟩
    · by_cases hyphen : first = '-'
      · subst hyphen
        have alone : ∀ more, rest ≠ '-' :: more := by
          rintro more rfl
          exact absurd h.operators.not_doubled (by decide)
        have read : leading ('-' :: rest) = (['-'], rest) := by
          cases rest with
          | nil => rfl
          | cons next more =>
            have other : next ≠ '-' := by
              rintro rfl
              exact alone more rfl
            simp [leading, other]
        rw [read]
        exact ⟨h.operators.tail, listing.eq_2 _ _ fun _ _ => alone _⟩
      · have read : leading (first :: rest) = ([], first :: rest) := by
          simp [leading, closing, hyphen]
        rw [read]
        exact ⟨h.operators, rfl⟩

/-- Unless a `^` negates it, a bracket has the items that are read behind its leading characters. -/
theorem bracket?_eq_map {after : List Char} (closed : Encloses cs negated listed after)
    (caret : negated = false → listed.head? ≠ some '^') :
    bracket? (marked negated listed) =
      (items? (leading listed).2).map fun found =>
        ⟨negated, (leading listed).1.map .char ++ found.1, found.2⟩ := by
  cases closed with
  | @plain first rest _ unmarked =>
    have uncaret : first ≠ '^' := by simpa using caret rfl
    change bracket? (first :: rest) = _
    unfold bracket?
    split
    next same =>
      split at same
      case h_1 mark => exact absurd (List.cons.inj mark).1 unmarked
      case h_2 mark => exact absurd (List.cons.inj mark).1 uncaret
      case h_3 =>
        cases same
        change (items? (leading (first :: rest)).2).bind _ = _
        cases items? (leading (first :: rest)).2 <;> rfl
  | @negated first rest =>
    change (items? (leading (first :: rest)).2).bind _ = _
    cases items? (leading (first :: rest)).2 <;> rfl

theorem bracket?_marked {after : List Char} (closed : Encloses cs negated listed after)
    (plain : Plain negated listed) :
    bracket? (marked negated listed) =
      if (listing listed).all Item.ascends then some ⟨negated, listing listed, []⟩ else none := by
  obtain ⟨operators, same⟩ := plain.listing_leading
  have ascends : (listing listed).all Item.ascends =
      (listing (leading listed).2).all Item.ascends := by
    rw [same, List.all_append, List.all_map]
    simp [Item.ascends]
  rw [bracket?_eq_map closed plain.caret, items?_eq operators, ascends, same]
  split <;> rfl

end Items

section Patterns

variable {pattern : List Char} {element : Element} {elements : List Element}

namespace Element

def Plain : Element → Prop
  | .bracket negated listed => Glob.Plain negated listed
  | .char _ | .anyChar | .anyText => True

/-- No range of a bracket runs backwards. -/
def Ascending : Element → Prop
  | .bracket _ listed => ∀ item ∈ listing listed, item.ascends = true
  | .char _ | .anyChar | .anyText => True

/-- A bracket with its end. -/
def Closed : Element → Prop
  | .bracket negated listed => ∃ cs after, Encloses cs negated listed after
  | .char _ | .anyChar | .anyText => True

end Element

theorem Reads.closed (h : Reads pattern elements) : ∀ element ∈ elements, element.Closed := by
  induction h with
  | nil => simp
  | anyText _ ih | anyChar _ ih | opening _ _ ih | char _ _ ih =>
    exact List.forall_mem_cons.mpr ⟨trivial, ih⟩
  | bracket closed _ ih => exact List.forall_mem_cons.mpr ⟨⟨_, _, closed⟩, ih⟩

theorem agree_bracket (negated : Bool) (listed : List Char) :
    Agree (.bracket negated listed) (.bracket ⟨negated, listing listed, []⟩) := by
  intro part
  have contains (c : Char) : (⟨negated, listing listed, []⟩ : Bracket).contains c = true ↔
      (Lists listed c ↔ negated = false) := by
    rw [Lists, ← List.any_eq_true, Bracket.contains, List.foldl_nil]
    cases negated <;> simp
  simp [Piece.StandsFor, Element.StandsFor, Piece.accepts, contains]

theorem Element.exists_piece (closed : element.Closed) (plain : element.Plain)
    (ascending : element.Ascending) :
    ∃ piece, element.piece? = some piece ∧ Agree element piece := by
  cases element with
  | char c => exact ⟨_, rfl, agree_char c⟩
  | anyChar => exact ⟨_, rfl, agree_anyChar⟩
  | anyText => exact ⟨_, rfl, agree_anyText⟩
  | bracket negated listed =>
    obtain ⟨cs, after, closed⟩ := closed
    refine ⟨_, ?_, agree_bracket negated listed⟩
    rw [piece?, bracket?_marked closed plain, if_pos (List.all_eq_true.mpr ascending)]
    rfl

theorem Element.ascending_of_piece? {piece : Piece} (closed : element.Closed)
    (plain : element.Plain) (compiled : element.piece? = some piece) : element.Ascending := by
  cases element with
  | char | anyChar | anyText => trivial
  | bracket negated listed =>
    obtain ⟨cs, after, closed⟩ := closed
    rw [piece?, bracket?_marked closed plain] at compiled
    split at compiled
    case isTrue ascending => exact List.all_eq_true.mp ascending
    case isFalse => contradiction

/-- A pattern whose brackets have no operators is compiled exactly if no range runs backwards. Then
it covers a text exactly if the text can be cut into parts that its elements stand for, where a
bracket stands for one character that is listed, or for one that is not if it is negated. -/
theorem covers_plain_brackets (reads : Reads pattern elements)
    (plain : ∀ element ∈ elements, element.Plain) :
    ((∃ pieces, pieces? pattern = some pieces) ↔ ∀ element ∈ elements, element.Ascending) ∧
      ∀ pieces, pieces? pattern = some pieces →
        ∀ text, covers pieces text = true ↔ Cuts elements text := by
  have closed := reads.closed
  have compiles : (∀ element ∈ elements, element.Ascending) → ∃ pieces,
      pieces? pattern = some pieces ∧ ∀ text, covers pieces text = true ↔ Cuts elements text := by
    intro ascending
    apply reads.exists_pieces
    intro element member
    exact element.exists_piece (closed element member) (plain element member)
      (ascending element member)
  have ascending {pieces : List Piece} (compiled : pieces? pattern = some pieces) :
      ∀ element ∈ elements, element.Ascending := by
    rw [reads.pieces?_eq, Checks.mapM_eq_some] at compiled
    intro element member
    obtain ⟨piece, -, read⟩ := Checks.exists_of_mem_left compiled element member
    exact Element.ascending_of_piece? (closed element member) (plain element member) read
  constructor
  · constructor
    · rintro ⟨pieces, compiled⟩
      exact ascending compiled
    · intro ascending
      exact (compiles ascending).imp fun _ => And.left
  · intro pieces compiled
    obtain ⟨others, again, covered⟩ := compiles (ascending compiled)
    obtain rfl := Option.some.inj (compiled.symm.trans again)
    exact covered

/-- The pattern `[!]^-]*[a-c-e]`. -/
def plainPattern : List Char :=
  ['[', '!', ']', '^', '-', ']', '*', '[', 'a', '-', 'c', '-', 'e', ']']

def plainElements : List Element :=
  [.bracket true [']', '^', '-'], .anyText, .bracket false ['a', '-', 'c', '-', 'e']]

theorem reads_plainPattern : Reads plainPattern plainElements := by
  have last : Reads ['[', 'a', '-', 'c', '-', 'e', ']'] [.bracket false ['a', '-', 'c', '-', 'e']] :=
    .bracket (@Encloses.plain 'a' ['-', 'c', '-', 'e'] [] (by decide) (by decide)) .nil
  exact .bracket (@Encloses.negated ']' ['^', '-'] _ (by decide)) (.anyText last)

theorem plain_plainElements : ∀ element ∈ plainElements, element.Plain := by
  simp only [plainElements, List.forall_mem_cons]
  refine ⟨⟨?_, by simp, by simp⟩, trivial, ⟨?_, by simp, by simp⟩, by simp⟩ <;>
    simp [WithoutOperators]

theorem ascending_plainElements : ∀ element ∈ plainElements, element.Ascending := by
  simp [plainElements, Element.Ascending, listing, Item.ascends]

theorem covers_plain_brackets_of_plainPattern :
    Reads plainPattern plainElements ∧ (∀ element ∈ plainElements, element.Plain) ∧
      (∀ element ∈ plainElements, element.Ascending) ∧
      ((∃ pieces, pieces? plainPattern = some pieces) ↔
        ∀ element ∈ plainElements, element.Ascending) ∧
      ∀ pieces, pieces? plainPattern = some pieces →
        ∀ text, covers pieces text = true ↔ Cuts plainElements text :=
  ⟨reads_plainPattern, plain_plainElements, ascending_plainElements,
    covers_plain_brackets reads_plainPattern plain_plainElements⟩

/-- An operator leaves nothing of two lists that have no character in common. -/
theorem operator_in_brackets :
    Reads ['[', '1', '&', '&', '2', ']'] [.bracket false ['1', '&', '&', '2']] ∧
      (Element.bracket false ['1', '&', '&', '2']).Ascending ∧
      (∃ pieces, pieces? ['[', '1', '&', '&', '2', ']'] = some pieces ∧
        covers pieces ['1'] = false) ∧
      Cuts [.bracket false ['1', '&', '&', '2']] ['1'] := by
  refine ⟨?_, ?_, ?_, ?_⟩
  · exact .bracket (@Encloses.plain '1' ['&', '&', '2'] [] (by decide) (by decide)) .nil
  · simp [Element.Ascending, listing, Item.ascends]
  · exact ⟨_, rfl, by decide⟩
  · refine ⟨[['1']], rfl, .cons ⟨'1', rfl, ?_⟩ .nil⟩
    simp [Lists, listing, Item.contains]

example : (pieces? "[^1]".toList).map (covers · ['2']) = some true := by
  decide +kernel

end Patterns

end SignedAdmission.Glob
