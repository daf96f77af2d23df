import SignedAdmission.Proofs.Policy.Pattern

/-! What a pattern may have in common with a text that it matches. Every element but `*` stands for
one character, so a pattern whose components begin with those of the text has nothing else than
`*` behind them. -/
namespace SignedAdmission.Glob

open Checks

variable {pattern text : List Char} {element : Element} {elements : List Element}
  {pieces : List Piece}

section Sources

/-- The part of a pattern that an element is read from. -/
def Element.source : Element → List Char
  | .char c => [c]
  | .anyChar => ['?']
  | .anyText => ['*']
  | .bracket negated listed => '[' :: (marked negated listed ++ [']'])

theorem Encloses.eq_append {cs listed after : List Char} {negated : Bool}
    (h : Encloses cs negated listed after) : cs = marked negated listed ++ ']' :: after := by
  cases h <;> simp [marked]

theorem Reads.flatten_source (h : Reads pattern elements) :
    (elements.map Element.source).flatten = pattern := by
  induction h with
  | nil => rfl
  | anyText _ ih | anyChar _ ih | opening _ _ ih | char _ _ ih =>
    rw [List.map_cons, List.flatten_cons, ih]
    rfl
  | bracket closed _ ih =>
    rw [List.map_cons, List.flatten_cons, ih, closed.eq_append]
    simp [Element.source]

/-- Plain characters in front of a pattern are read as themselves. -/
theorem reads_plain {cs rest : List Char} (plain : ∀ c ∈ cs, isPlain c = true)
    (more : Reads rest elements) : Reads (cs ++ rest) (cs.map Element.char ++ elements) := by
  induction cs with
  | nil => exact more
  | cons c cs ih =>
    rw [List.forall_mem_cons] at plain
    exact .char plain.1 (ih plain.2)

/-- No bracket lists a slash. -/
def Element.SlashFree : Element → Prop
  | .bracket _ listed => '/' ∉ listed
  | .char _ | .anyChar | .anyText => True

/-- Only the slash itself is read from one. -/
theorem Element.SlashFree.slash_mem_source (free : element.SlashFree) :
    '/' ∈ element.source ↔ element = .char '/' := by
  cases element with
  | char c => simp [source, eq_comm]
  | anyChar | anyText => simp [source]
  | bracket negated listed =>
    rw [SlashFree] at free
    cases negated <;> simp [source, marked, free]

theorem count_slash (free : ∀ element ∈ elements, element.SlashFree) :
    (elements.map Element.source).flatten.count '/' = elements.count (.char '/') := by
  induction elements with
  | nil => rfl
  | cons element elements ih =>
    rw [List.forall_mem_cons] at free
    rw [List.map_cons, List.flatten_cons, List.count_append, ih free.2]
    by_cases slash : element = .char '/'
    · subst slash
      rw [List.count_cons_self, Nat.add_comm]
      rfl
    · have absent := mt free.1.slash_mem_source.mp slash
      rw [List.count_eq_zero_of_not_mem absent, List.count_cons_of_ne slash, Nat.zero_add]

end Sources

section Lengths

/-- How many elements stand for one character each. -/
def singles (elements : List Element) : ℕ :=
  elements.countP (· ≠ .anyText)

@[simp]
theorem singles_anyText (elements : List Element) :
    singles (.anyText :: elements) = singles elements :=
  List.countP_cons_of_neg (by simp)

theorem singles_of_ne (single : element ≠ .anyText) :
    singles (element :: elements) = singles elements + 1 :=
  List.countP_cons_of_pos (by simpa using single)

theorem Element.piece?_eq_anyText : element.piece? = some .anyText ↔ element = .anyText := by
  cases element with
  | char | anyChar | anyText => simp [piece?]
  | bracket negated listed => simp [piece?]

/-- A text has a character for each element that stands for one, and every character that an element
stands for by name. -/
theorem Matches.singles_le (matched : Matches pieces text)
    (compiled : elements.mapM Element.piece? = some pieces) :
    singles elements ≤ text.length ∧ ∀ c, elements.count (.char c) ≤ text.count c := by
  rw [mapM_eq_some] at compiled
  induction matched generalizing elements with
  | nil =>
    obtain rfl := List.forall₂_nil_right_iff.mp compiled
    exact ⟨Nat.le_refl _, fun _ => Nat.le_refl _⟩
  | @one piece d pieces text single accepted _ ih =>
    obtain ⟨element, elements, first, rest, rfl⟩ := List.forall₂_cons_right_iff.mp compiled
    obtain ⟨fewer, named⟩ := ih rest
    constructor
    · rw [List.length_cons]
      by_cases any : element = .anyText
      · rw [any, singles_anyText]
        omega
      · rw [singles_of_ne any]
        omega
    · intro c
      have later := named c
      by_cases same : element = .char c
      · subst same
        obtain rfl := Option.some.inj first
        obtain rfl : d = c := beq_iff_eq.mp accepted
        rw [List.count_cons_self, List.count_cons_self]
        omega
      · rw [List.count_cons_of_ne same]
        exact Nat.le_trans later List.count_le_count_cons
  | anyText skipped _ ih =>
    obtain ⟨element, elements, first, rest, rfl⟩ := List.forall₂_cons_right_iff.mp compiled
    obtain rfl := Element.piece?_eq_anyText.mp first
    obtain ⟨fewer, named⟩ := ih rest
    constructor
    · rw [singles_anyText, List.length_append]
      omega
    · intro c
      have later := named c
      rw [List.count_cons_of_ne (by simp), List.count_append]
      omega

end Lengths

section Components

variable {parts components : List (List Char)} {part first : List Char}

/-- Components with some `*` behind each of them. -/
def starred (parts : List (List Char)) (stars : List ℕ) : List (List Char) :=
  (parts.zip stars).map fun (part, count) => part ++ List.replicate count '*'

/-- Elements stand for each character of some parts and each slash between them, and if they stand
for no others, their components have only `*` behind those parts. -/
structure Carries (elements : List Element) (parts components : List (List Char)) : Prop where
  enough : (Text.join '/' parts).length ≤ singles elements
  tight : (Text.join '/' parts).length = singles elements →
    ∃ stars, stars.length = parts.length ∧ components = starred parts stars

namespace Carries

theorem nil : Carries [] [[]] [[]] :=
  ⟨Nat.zero_le _, fun _ => ⟨[0], rfl, rfl⟩⟩

theorem slash (carries : Carries elements parts components) (more : parts ≠ []) :
    Carries (.char '/' :: elements) ([] :: parts) ([] :: components) := by
  have length : (Text.join '/' ([] :: parts)).length = (Text.join '/' parts).length + 1 := by
    rw [Text.join_cons more]
    rfl
  constructor
  · rw [length, singles_of_ne (by simp)]
    exact Nat.succ_le_succ carries.enough
  · rw [length, singles_of_ne (by simp)]
    intro same
    obtain ⟨stars, lengths, rfl⟩ := carries.tight (Nat.succ.inj same)
    exact ⟨0 :: stars, congrArg Nat.succ lengths, rfl⟩

theorem tight_cons (carries : Carries elements (part :: parts) (first :: components))
    (same : (Text.join '/' (part :: parts)).length = singles elements) :
    ∃ count stars, stars.length = parts.length ∧ first = part ++ List.replicate count '*' ∧
      components = starred parts stars := by
  obtain ⟨stars, lengths, written⟩ := carries.tight same
  obtain ⟨count, stars, rfl⟩ := List.exists_cons_of_length_eq_add_one lengths
  obtain ⟨first_eq, others_eq⟩ := List.cons.inj written
  exact ⟨count, stars, Nat.succ.inj lengths, first_eq, others_eq⟩

theorem anyText (carries : Carries elements ([] :: parts) (first :: components)) :
    Carries (.anyText :: elements) ([] :: parts) (('*' :: first) :: components) := by
  constructor
  · rw [singles_anyText]
    exact carries.enough
  · rw [singles_anyText]
    intro same
    obtain ⟨count, stars, lengths, rfl, rfl⟩ := carries.tight_cons same
    exact ⟨(count + 1) :: stars, congrArg Nat.succ lengths, rfl⟩

/-- With one more character than the parts have, nothing is tight any more. -/
theorem extra (carries : Carries elements parts components) (single : element ≠ .anyText)
    (others : List (List Char)) : Carries (element :: elements) parts others := by
  have enough := carries.enough
  constructor
  · rw [singles_of_ne single]
    omega
  · rw [singles_of_ne single]
    intro same
    omega

theorem char {c : Char} (carries : Carries elements (part :: parts) (first :: components)) :
    Carries (.char c :: elements) ((c :: part) :: parts) ((c :: first) :: components) := by
  have length : (Text.join '/' ((c :: part) :: parts)).length =
      (Text.join '/' (part :: parts)).length + 1 := by
    by_cases more : parts = []
    · simp [more]
    · rw [Text.join_cons more, Text.join_cons more]
      rfl
  constructor
  · rw [length, singles_of_ne (by simp)]
    exact Nat.succ_le_succ carries.enough
  · rw [length, singles_of_ne (by simp)]
    intro same
    obtain ⟨count, stars, lengths, rfl, rfl⟩ := carries.tight_cons (Nat.succ.inj same)
    exact ⟨count :: stars, congrArg Nat.succ lengths, rfl⟩

end Carries

/-- A plain character is read as itself. -/
theorem Element.eq_char_of_source {c : Char} {rest : List Char} (plain : isPlain c = true)
    (read : element.source = c :: rest) : element = .char c := by
  cases element with
  | char d =>
    obtain ⟨rfl, -⟩ := List.cons.inj read
    rfl
  | anyChar | anyText | bracket =>
    obtain ⟨rfl, -⟩ := List.cons.inj read
    contradiction

theorem Element.source_ne_nil (element : Element) : element.source ≠ [] := by
  cases element <;> simp [source]

/-- Components that begin with plain parts are carried by the elements that they are read from. -/
theorem carries_of_starts (free : ∀ element ∈ elements, element.SlashFree)
    (plain : ∀ part ∈ parts, ∀ c ∈ part, isPlain c = true)
    (split : Text.split '/' (elements.map Element.source).flatten = components)
    (starts : List.Forall₂ (· <+: ·) parts components) : Carries elements parts components := by
  induction elements generalizing parts components with
  | nil =>
    obtain rfl : [[]] = components := split
    obtain ⟨part, _, start, rest, rfl⟩ := List.forall₂_cons_right_iff.mp starts
    obtain rfl := List.forall₂_nil_right_iff.mp rest
    obtain rfl := List.prefix_nil.mp start
    exact .nil
  | cons element elements ih =>
    rw [List.forall_mem_cons] at free
    rw [List.map_cons, List.flatten_cons] at split
    -- A slash ends the first component, so that its part has to be empty; what another element is
    -- read from is all in the first component.
    by_cases slash : element = .char '/'
    · subst slash
      obtain rfl : [] :: Text.split '/' (elements.map Element.source).flatten = components := split
      obtain ⟨part, parts, start, rest, rfl⟩ := List.forall₂_cons_right_iff.mp starts
      obtain rfl := List.prefix_nil.mp start
      rw [List.forall_mem_cons] at plain
      refine (ih free.2 plain.2 rfl rest).slash ?_
      rintro rfl
      exact Text.split_ne_nil '/' _ (List.forall₂_nil_left_iff.mp rest)
    · obtain ⟨first, others, later⟩ := List.exists_cons_of_ne_nil
        (Text.split_ne_nil '/' (elements.map Element.source).flatten)
      rw [Text.split_append_left (mt free.1.slash_mem_source.mp slash) later] at split
      subst split
      obtain ⟨part, parts, start, rest, rfl⟩ := List.forall₂_cons_right_iff.mp starts
      rw [List.forall_mem_cons] at plain
      cases part with
      | nil =>
        -- The part is used up: a `*` may still follow it, and anything else is one too many.
        have carries : Carries elements ([] :: parts) (first :: others) :=
          ih free.2 (List.forall_mem_cons.mpr plain) later (.cons List.nil_prefix rest)
        by_cases any : element = .anyText
        · subst any
          exact carries.anyText
        · exact carries.extra any _
      | cons c part =>
        rw [List.forall_mem_cons] at plain
        obtain ⟨d, source, read⟩ := List.exists_cons_of_ne_nil element.source_ne_nil
        rw [read, List.cons_append, List.cons_prefix_cons] at start
        obtain ⟨rfl, start⟩ := start
        obtain rfl := Element.eq_char_of_source plain.1.1 read
        obtain rfl : [] = source := (List.cons.inj read).2
        have carries : Carries elements (part :: parts) (first :: others) :=
          ih free.2 (List.forall_mem_cons.mpr ⟨plain.1.2, plain.2⟩) later (.cons start rest)
        exact carries.char

end Components

section Stars

variable {parts : List (List Char)} {stars : List ℕ}

theorem length_starred (lengths : stars.length = parts.length) :
    (starred parts stars).length = parts.length := by
  rw [starred, List.length_map, List.length_zip, lengths, Nat.min_self]

theorem starred_ne_nil (lengths : stars.length = parts.length) (more : parts ≠ []) :
    starred parts stars ≠ [] := by
  rwa [← List.length_pos_iff, length_starred lengths, List.length_pos_iff]

theorem exists_of_mem_starred {part : List Char} (h : part ∈ starred parts stars) :
    ∃ start ∈ parts, ∃ count, part = start ++ List.replicate count '*' := by
  obtain ⟨⟨start, count⟩, member, rfl⟩ := List.mem_map.mp h
  exact ⟨start, (List.of_mem_zip member).1, count, rfl⟩

theorem starred_zero (parts : List (List Char)) :
    starred parts (List.replicate parts.length 0) = parts := by
  induction parts with
  | nil => rfl
  | cons part parts ih =>
    rw [List.length_cons, List.replicate_succ, starred, List.zip_cons_cons, List.map_cons]
    exact congrArg₂ List.cons (List.append_nil part) ih

theorem starts_starred (lengths : stars.length = parts.length) :
    List.Forall₂ (· <+: ·) parts (starred parts stars) := by
  induction parts generalizing stars with
  | nil => exact .nil
  | cons part parts ih =>
    obtain ⟨count, stars, rfl⟩ := List.exists_cons_of_length_eq_add_one lengths
    exact .cons (List.prefix_append ..) (ih (Nat.succ.inj lengths))

theorem length_head_starred (lengths : stars.length = parts.length) :
    ((starred parts stars).headD []).length = (parts.headD []).length + stars.headD 0 := by
  cases parts with
  | nil =>
    obtain rfl := List.eq_nil_of_length_eq_zero lengths
    rfl
  | cons part parts =>
    obtain ⟨count, stars, rfl⟩ := List.exists_cons_of_length_eq_add_one lengths
    simp [starred]

/-- Without any `*`, only the components are left. -/
theorem filter_starred (lengths : stars.length = parts.length)
    (starless : ∀ part ∈ parts, '*' ∉ part) :
    (Text.join '/' (starred parts stars)).filter (· ≠ '*') = Text.join '/' parts := by
  induction parts generalizing stars with
  | nil => rfl
  | cons part parts ih =>
    obtain ⟨count, stars, rfl⟩ := List.exists_cons_of_length_eq_add_one lengths
    have lengths := Nat.succ.inj lengths
    rw [List.forall_mem_cons] at starless
    have kept : (part ++ List.replicate count '*').filter (· ≠ '*') = part := by
      have same : part.filter (· ≠ '*') = part := by
        rw [List.filter_eq_self]
        intro c member
        rw [decide_eq_true_iff]
        rintro rfl
        exact starless.1 member
      rw [List.filter_append, same]
      simp
    have step : starred (part :: parts) (count :: stars) =
        (part ++ List.replicate count '*') :: starred parts stars := rfl
    by_cases more : parts = []
    · subst more
      simpa [step, starred] using kept
    · rw [step, Text.join_cons (starred_ne_nil lengths more), Text.join_cons more,
        List.filter_append, kept, List.filter_cons_of_pos (by simp), ih lengths starless.2]

/-- Components with `*` behind them are the components of the pattern that they make up. -/
theorem split_starred (lengths : stars.length = parts.length) (more : parts ≠ [])
    (slashless : ∀ part ∈ parts, '/' ∉ part) :
    Text.split '/' (Text.join '/' (starred parts stars)) = starred parts stars := by
  apply Text.split_join (starred_ne_nil lengths more)
  intro part member
  obtain ⟨start, present, count, rfl⟩ := exists_of_mem_starred member
  rw [List.mem_append, List.mem_replicate]
  rintro (inside | ⟨-, star⟩)
  · exact slashless start present inside
  · contradiction

/-- Where nothing but `*` is special, a pattern matches what is left of it without them. -/
theorem exists_matches (plain : ∀ c ∈ pattern, c = '*' ∨ isPlain c = true) :
    ∃ pieces, pieces? pattern = some pieces ∧ Matches pieces (pattern.filter (· ≠ '*')) := by
  obtain ⟨elements, pieces, reads, compiled, matched⟩ : ∃ elements pieces,
      Reads pattern elements ∧ elements.mapM Element.piece? = some pieces ∧
        Matches pieces (pattern.filter (· ≠ '*')) := by
    induction pattern with
    | nil => exact ⟨[], [], .nil, rfl, .nil⟩
    | cons c pattern ih =>
      rw [List.forall_mem_cons] at plain
      obtain ⟨elements, pieces, reads, compiled, matched⟩ := ih plain.2
      rcases plain.1 with rfl | single
      · refine ⟨_, .anyText :: pieces, .anyText reads, ?_, ?_⟩
        · rw [mapM_piece?_cons, compiled]
          rfl
        · rw [List.filter_cons_of_neg (by simp)]
          exact .anyText [] matched
      · refine ⟨_, .char c :: pieces, .char single reads, ?_, ?_⟩
        · rw [mapM_piece?_cons, compiled]
          rfl
        · have other : c ≠ '*' := by
            rintro rfl
            contradiction
          rw [List.filter_cons_of_pos (by simpa using other)]
          exact .one (by simp) (beq_self_eq_true c) matched
  exact ⟨pieces, by rw [reads.pieces?_eq, compiled], matched⟩

end Stars

end SignedAdmission.Glob
