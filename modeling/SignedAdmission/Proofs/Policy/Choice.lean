import Mathlib.Data.Prod.Lex
import SignedAdmission.Proofs.Policy.Repository

/-! The choice among the rules of a list. Every rule has a priority for an image; the rule that is
selected is the first one of the greatest priority among those whose patterns match, and its
priority does not depend on the order of the list. -/
namespace SignedAdmission

namespace Rule

/-- The parts of a pattern that names a tag. -/
def components (rule : Rule) : List (List Char) :=
  Text.split '/' rule.glob

/-- A pattern matches the canonical text of an image. -/
def Matches (rule : Rule) (image : Reference) : Prop :=
  ∃ pieces, Glob.pieces? rule.glob = some pieces ∧ Glob.Matches pieces image.canonical.toList

/-- How many characters two texts share before they differ. -/
def sharedStart (part other : List Char) : ℕ :=
  ((part.zip other).takeWhile fun (a, b) => a == b).length

/-- What each component shares with the image's component in the same place, if there is one. -/
def sharedStarts (rule : Rule) (image : Reference) : List ℕ :=
  let others := Text.split '/' image.canonical.toList
  rule.components.zipIdx.map fun (part, place) => (others[place]?).elim 0 (sharedStart part)

/-- The number of components, what they share with the image, and the length of the first one, of
which earlier numbers weigh more. -/
def priority (rule : Rule) (image : Reference) : ℕ ×ₗ List ℕ ×ₗ ℕ :=
  toLex (rule.components.length,
    toLex (rule.sharedStarts image, (rule.components.headD []).length))

end Rule

namespace Specificity

theorem commonLength_eq (part other : List Char) :
    commonLength part other = Rule.sharedStart part other := by
  induction part generalizing other with
  | nil => rfl
  | cons a part ih =>
    cases other with
    | nil => rfl
    | cons b other =>
      by_cases same : a = b
      · simp [commonLength, Rule.sharedStart, same, ih]
      · simp [commonLength, Rule.sharedStart, same]

theorem sharedLengths_drop (parts others : List (List Char)) (start : ℕ) :
    sharedLengths parts (others.drop start) =
      (parts.zipIdx start).map fun (part, place) =>
        (others[place]?).elim 0 (Rule.sharedStart part) := by
  induction parts generalizing start with
  | nil => rfl
  | cons part parts ih =>
    rw [List.zipIdx_cons, List.map_cons, ← ih (start + 1)]
    cases found : others[start]? with
    | none =>
      have past : others.length ≤ start := List.getElem?_eq_none_iff.mp found
      rw [List.drop_eq_nil_of_le past, List.drop_eq_nil_of_le (by omega), sharedLengths]
      simp only [found, Option.elim_none]
    | some other =>
      obtain ⟨inside, rfl⟩ := List.getElem?_eq_some_iff.mp found
      rw [List.drop_eq_getElem_cons inside, sharedLengths, commonLength_eq]
      simp only [found, Option.elim_some]

/-- Lists of one length are told apart before the numbers that follow them. -/
theorem concat_lt_concat {as bs : List ℕ} {a b : ℕ} (even : as.length = bs.length) :
    as ++ [a] < bs ++ [b] ↔ as < bs ∨ as = bs ∧ a < b := by
  induction as generalizing bs with
  | nil =>
    obtain rfl := List.eq_nil_of_length_eq_zero even.symm
    simp [List.cons_lt_cons_iff]
  | cons x as ih =>
    cases bs with
    | nil => simp at even
    | cons y bs =>
      rw [List.cons_append, List.cons_append, List.cons_lt_cons_iff, List.cons_lt_cons_iff,
        ih (by simpa using even), List.cons.injEq]
      tauto

/-- The numbers that selection compares are those of the priority. -/
theorem key_lt_key {rule other : Rule} {image : Reference} :
    (of rule.glob image.canonical.toList).key < (of other.glob image.canonical.toList).key ↔
      rule.priority image < other.priority image := by
  have shared (rule : Rule) : (of rule.glob image.canonical.toList).shared =
      rule.sharedStarts image :=
    sharedLengths_drop rule.components (Text.split '/' image.canonical.toList) 0
  have even (rule : Rule) : (rule.sharedStarts image).length = rule.components.length := by
    simp [Rule.sharedStarts]
  rw [Rule.priority, Rule.priority, Prod.Lex.toLex_lt_toLex, key, key, List.cons_append,
    List.cons_append, List.cons_lt_cons_iff, shared, shared]
  apply or_congr_right
  apply and_congr_right
  intro same
  have lengths : rule.components.length = other.components.length := same
  rw [Prod.Lex.toLex_lt_toLex, concat_lt_concat (by rw [even, even, lengths])]
  rfl

end Specificity

namespace Policy

/-- A rule stands at a place of a list, matches an image, and no other rule that does so has a
greater priority or the same one and an earlier place. -/
structure Chosen (rules : List Rule) (image : Reference) (place : ℕ) (rule : Rule) : Prop where
  declared : rules[place]? = some rule
  matched : rule.Matches image
  greatest : ∀ other ∈ rules, other.Matches image → other.priority image ≤ rule.priority image
  earliest : ∀ earlier other, rules[earlier]? = some other → other.Matches image →
    other.priority image = rule.priority image → place ≤ earlier

section Choice

variable {rules others : List Rule} {rule other : Rule} {policy again : Policy}
  {image : Reference} {place : ℕ} {compiled : CompiledRule}

theorem Chosen.mem (h : Chosen rules image place rule) : rule ∈ rules :=
  List.mem_of_getElem? h.declared

/-- No list has two rules to choose. -/
theorem Chosen.unique {second : ℕ} (h : Chosen rules image place rule)
    (h' : Chosen rules image second other) : place = second ∧ rule = other := by
  have same : other.priority image = rule.priority image := by
    apply le_antisymm
    · exact h.greatest other h'.mem h'.matched
    · exact h'.greatest rule h.mem h.matched
  have places : place = second := by
    apply le_antisymm
    · exact h.earliest second other h'.declared h'.matched same
    · exact h'.earliest place rule h.declared h.matched same.symm
  subst places
  exact ⟨rfl, Option.some.inj (h.declared.symm.trans h'.declared)⟩

theorem rank_lt_rank {a b : CompiledRule} :
    rank image.canonical.toList a < rank image.canonical.toList b ↔
      a.rule.priority image < b.rule.priority image :=
  Specificity.key_lt_key

theorem mem_covering (h : compile rules = .ok policy) :
    compiled ∈ policy.covering image.canonical.toList ↔
      rules[compiled.index]? = some compiled.rule ∧
        Glob.pieces? compiled.rule.glob = some compiled.pieces ∧
        Glob.Matches compiled.pieces image.canonical.toList := by
  rw [covering, List.mem_filter, mem_rules_iff h, Glob.covers_iff, and_assoc]

theorem matches_of_covering (h : compile rules = .ok policy)
    (member : compiled ∈ policy.covering image.canonical.toList) : compiled.rule.Matches image := by
  obtain ⟨-, read, matched⟩ := (mem_covering h).mp member
  exact ⟨compiled.pieces, read, matched⟩

/-- A rule that matches is among those that selection looks at. -/
theorem exists_covering (h : compile rules = .ok policy) (declared : rules[place]? = some rule)
    (matched : rule.Matches image) :
    ∃ pieces, ⟨place, rule, pieces⟩ ∈ policy.covering image.canonical.toList := by
  obtain ⟨pieces, read, matched⟩ := matched
  exact ⟨pieces, (mem_covering h).mpr ⟨declared, read, matched⟩⟩

theorem FirstBest.chosen (h : compile rules = .ok policy)
    (best : FirstBest image.canonical.toList (policy.covering image.canonical.toList) compiled) :
    Chosen rules image compiled.index compiled.rule := by
  have ordered : (policy.covering image.canonical.toList).Pairwise
      fun earlier later => earlier.index < later.index := (pairwise_index h).filter _
  refine ⟨((mem_covering h).mp best.mem).1, matches_of_covering h best.mem, ?_, ?_⟩
  · intro other member matched
    obtain ⟨place, declared⟩ := List.mem_iff_getElem?.mp member
    obtain ⟨pieces, present⟩ := exists_covering h declared matched
    have bounded := best.rank_le _ present
    rw [← not_lt, rank_lt_rank] at bounded
    exact not_lt.mp bounded
  · intro earlier other declared matched same
    obtain ⟨pieces, present⟩ := exists_covering h declared matched
    obtain ⟨before, after, split, lower, -⟩ := best
    rw [split, List.pairwise_append, List.pairwise_cons] at ordered
    obtain ⟨-, ⟨later, -⟩, -⟩ := ordered
    rw [split, List.mem_append, List.mem_cons] at present
    rcases present with passed | rfl | follows
    · have less := lower _ passed
      rw [rank_lt_rank] at less
      exact absurd same less.ne
    · exact le_refl _
    · exact (later _ follows).le

/-- Either some rule is there to choose, or no rule matches. -/
theorem select_cases (h : compile rules = .ok policy) (image : Reference) :
    (∃ best, policy.select image = .ok best ∧ Chosen rules image best.index best.rule) ∨
      policy.select image = .error (.noMatchingRule image.canonical) ∧
        ∀ rule ∈ rules, ¬ rule.Matches image := by
  by_cases none_covers : policy.covering image.canonical.toList = []
  · right
    constructor
    · have unselected : policy.select? image.canonical.toList = none := by
        change (policy.covering image.canonical.toList).foldl _ none = none
        rw [none_covers]
        rfl
      rw [select, unselected]
    · intro rule member matched
      obtain ⟨place, declared⟩ := List.mem_iff_getElem?.mp member
      obtain ⟨pieces, present⟩ := exists_covering h declared matched
      rw [none_covers] at present
      cases present
  · left
    obtain ⟨best, selected, first⟩ := select?_firstBest none_covers
    refine ⟨best, ?_, first.chosen h⟩
    rw [select, selected]

theorem chosen_of_select (h : compile rules = .ok policy)
    (selected : policy.select image = .ok compiled) :
    Chosen rules image compiled.index compiled.rule := by
  rcases select_cases h image with ⟨best, same, chosen⟩ | ⟨unselected, -⟩
  · rw [same] at selected
    obtain rfl := Except.ok.inj selected
    exact chosen
  · rw [unselected] at selected
    cases selected

theorem exists_select_of_chosen (h : compile rules = .ok policy)
    (chosen : Chosen rules image place rule) :
    ∃ pieces, policy.select image = .ok ⟨place, rule, pieces⟩ := by
  rcases select_cases h image with ⟨best, selected, other⟩ | ⟨-, unmatched⟩
  · obtain ⟨rfl, rfl⟩ := chosen.unique other
    exact ⟨best.pieces, selected⟩
  · exact absurd chosen.matched (unmatched rule chosen.mem)

theorem select_eq_error {e : TrustError} (h : compile rules = .ok policy) :
    policy.select image = .error e ↔
      (∀ rule ∈ rules, ¬ rule.Matches image) ∧ e = .noMatchingRule image.canonical := by
  rcases select_cases h image with ⟨best, selected, chosen⟩ | ⟨unselected, unmatched⟩
  · rw [selected]
    constructor
    · intro failed
      cases failed
    · rintro ⟨unmatched, -⟩
      exact absurd chosen.matched (unmatched _ chosen.mem)
  · rw [unselected, Except.error.injEq, eq_comm]
    exact (and_iff_right unmatched).symm

/-- What there is to choose has the same priority in every order of the rules. -/
theorem Chosen.priority_of_perm {second : ℕ} (h : Chosen rules image place rule)
    (perm : others.Perm rules) (h' : Chosen others image second other) :
    other.priority image = rule.priority image := by
  apply le_antisymm
  · exact h.greatest other (perm.subset h'.mem) h'.matched
  · exact h'.greatest rule (perm.symm.subset h.mem) h.matched

theorem Chosen.components_le (h : Chosen rules image place rule) (member : other ∈ rules)
    (matched : other.Matches image) : other.components.length ≤ rule.components.length :=
  Prod.Lex.monotone_fst _ _ (h.greatest other member matched)

theorem exists_select_of_perm (h : compile rules = .ok policy)
    (again_compiled : compile others = .ok again) (perm : others.Perm rules)
    (selected : policy.select image = .ok compiled) :
    ∃ second, again.select image = .ok second ∧
      second.rule.priority image = compiled.rule.priority image ∧
      second.rule ∈ rules ∧ second.rule.Matches image := by
  have chosen := chosen_of_select h selected
  rcases select_cases again_compiled image with ⟨second, same, other⟩ | ⟨-, unmatched⟩
  · exact ⟨second, same, chosen.priority_of_perm perm other, perm.subset other.mem, other.matched⟩
  · exact absurd chosen.matched (unmatched _ (perm.symm.subset chosen.mem))

/-- The selected rule is the first one of the greatest priority among those that match, and
selection fails exactly if none matches. So no rule that matches has more components. In another
order of the same rules the priority of the selected rule is the same, and so is the rule if no
other one shares that priority. -/
theorem select_most_specific (h : compile rules = .ok policy) (image : Reference) :
    (∀ place rule, (∃ pieces, policy.select image = .ok ⟨place, rule, pieces⟩) ↔
        Chosen rules image place rule) ∧
      (∀ e, policy.select image = .error e ↔
        (∀ rule ∈ rules, ¬ rule.Matches image) ∧ e = .noMatchingRule image.canonical) ∧
      (∀ chosen, policy.select image = .ok chosen →
        ∀ rule ∈ rules, rule.Matches image →
          rule.components.length ≤ chosen.rule.components.length) ∧
      ∀ others, others.Perm rules → ∃ again, compile others = .ok again ∧
        (∀ e, policy.select image = .error e → again.select image = .error e) ∧
        ∀ chosen, policy.select image = .ok chosen → ∃ second, again.select image = .ok second ∧
          second.rule.priority image = chosen.rule.priority image ∧
          ((∀ rule ∈ rules, rule.Matches image →
              rule.priority image = chosen.rule.priority image → rule = chosen.rule) →
            second.rule = chosen.rule) := by
  refine ⟨?_, fun e => select_eq_error h, ?_, ?_⟩
  · intro place rule
    constructor
    · rintro ⟨pieces, selected⟩
      exact chosen_of_select h selected
    · exact exists_select_of_chosen h
  · intro chosen selected rule member matched
    exact (chosen_of_select h selected).components_le member matched
  · intro others perm
    obtain ⟨again, compiled⟩ := exists_compile_of_perm h perm
    refine ⟨again, compiled, ?_, ?_⟩
    · intro e failed
      obtain ⟨unmatched, rfl⟩ := (select_eq_error h).mp failed
      refine (select_eq_error compiled).mpr ⟨?_, rfl⟩
      intro rule member
      exact unmatched rule (perm.subset member)
    · intro chosen selected
      obtain ⟨second, reselected, same, member, matched⟩ :=
        exists_select_of_perm h compiled perm selected
      refine ⟨second, reselected, same, ?_⟩
      intro alone
      exact alone _ member matched same

end Choice

section Nested

/-- The pieces of a pattern that is a text with anything after it. -/
def anyAfter (start : String) : List Glob.Piece :=
  Glob.literal start.toList ++ [.anyText, .char ':', .anyText]

/-- Rules for all images, for those of one registry, and for those of one team. -/
def nestedRules : List Rule :=
  [plainRule "*", plainRule "docker.io/*", plainRule "docker.io/team/*"]

def teamRule : CompiledRule :=
  ⟨2, plainRule "docker.io/team/*", anyAfter "docker.io/team/"⟩

def nestedPolicy : Policy :=
  ⟨[⟨0, plainRule "*", anyAfter ""⟩, ⟨1, plainRule "docker.io/*", anyAfter "docker.io/"⟩, teamRule]⟩

theorem select_nestedPolicy : nestedPolicy.select Reference.teamImage = .ok teamRule := by
  have matched : ∀ rule ∈ nestedPolicy.rules,
      Glob.covers rule.pieces Reference.teamImage.canonical.toList = true := by decide +kernel
  have registry : (Specificity.of (plainRule "docker.io/*").glob
      Reference.teamImage.canonical.toList).exceeds
        (Specificity.of (plainRule "*").glob Reference.teamImage.canonical.toList) = true := by
    decide +kernel
  have team : (Specificity.of (plainRule "docker.io/team/*").glob
      Reference.teamImage.canonical.toList).exceeds
        (Specificity.of (plainRule "docker.io/*").glob Reference.teamImage.canonical.toList) =
          true := by
    decide +kernel
  rw [select, select?, List.filter_eq_self.mpr matched]
  simp [nestedPolicy, teamRule, better, registry, team]

theorem select_most_specific_of_nested :
    compile nestedRules = .ok nestedPolicy ∧
      Chosen nestedRules Reference.teamImage 2 (plainRule "docker.io/team/*") := by
  have all : Glob.pieces? (plainRule "*").glob = some (anyAfter "") := by decide +kernel
  have registry : Glob.pieces? (plainRule "docker.io/*").glob = some (anyAfter "docker.io/") := by
    decide +kernel
  have team : Glob.pieces? (plainRule "docker.io/team/*").glob =
      some (anyAfter "docker.io/team/") := by
    decide +kernel
  have compiled : compile nestedRules = .ok nestedPolicy := by
    apply compile_eq_ok.mpr
    refine .cons ?_ (.cons ?_ (.cons ?_ .nil))
    · exact compileRule_eq_ok.mpr ⟨_, all, rfl⟩
    · exact compileRule_eq_ok.mpr ⟨_, registry, rfl⟩
    · exact compileRule_eq_ok.mpr ⟨_, team, rfl⟩
  obtain ⟨choice, -⟩ := select_most_specific compiled Reference.teamImage
  exact ⟨compiled, (choice _ _).mp ⟨_, select_nestedPolicy⟩⟩

end Nested

end Policy

end SignedAdmission
