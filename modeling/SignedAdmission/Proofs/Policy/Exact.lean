import SignedAdmission.Proofs.Policy.Choice
import SignedAdmission.Proofs.Policy.Starred
import SignedAdmission.Proofs.Reference.Pinned

/-! Rules for one reference. The canonical text of a reference is the most specific pattern for it,
apart from those that have nothing but `*` appended to some of its components. -/
namespace SignedAdmission

namespace Reference

variable {r : Reference} {cs : List Char}

theorem isPlain_of_isTag (h : isTag cs = true) : ∀ c ∈ cs, Glob.isPlain c = true := by
  simp only [isTag, Bool.and_eq_true, List.all_eq_true, Bool.or_eq_true, beq_iff_eq] at h
  intro c member
  have allowed := h.1.2 c member
  simp only [Glob.isPlain, Bool.and_eq_true, bne_iff_ne]
  refine ⟨⟨?_, ?_⟩, ?_⟩ <;>
  · rintro rfl
    revert allowed
    decide

theorem ne_nil_of_isTag (h : isTag cs = true) : cs ≠ [] := by
  rintro rfl
  contradiction

theorem isPlain_of_isDigest (h : isDigest cs = true) : ∀ c ∈ cs, Glob.isPlain c = true := by
  have plain : ∀ c ∈ Hex.digits, Glob.isPlain c = true := List.forall_iff_forall_mem.mp (by decide)
  intro c member
  exact plain c (mem_digits_of_isDigest h c member)

theorem colon_not_mem_of_isDigest (h : isDigest cs = true) : ':' ∉ cs := by
  intro member
  have digit := mem_digits_of_isDigest h ':' member
  revert digit
  decide

theorem ne_nil_of_isDigest (h : isDigest cs = true) : cs ≠ [] := by
  rintro rfl
  contradiction

theorem WellFormed.isPlain_canonical (h : r.WellFormed) :
    ∀ c ∈ r.canonical.toList, Glob.isPlain c = true := by
  have path := h.isPlain_repositoryPath
  rw [canonical_toList, Spelling.text, ← repositoryPath_toList]
  rw [List.forall_mem_append, List.forall_mem_append]
  refine ⟨⟨path, ?_⟩, ?_⟩
  · cases tagged : r.tag with
    | none => simp [Spelling.tagText, spelling, tagged]
    | some tag =>
      have plain := isPlain_of_isTag (h.tag tag tagged)
      simpa [Spelling.tagText, spelling, tagged, Glob.isPlain] using plain
  · cases addressed : r.digest with
    | none => simp [Spelling.digestText, spelling, addressed]
    | some digest =>
      have plain := isPlain_of_isDigest (h.digest digest addressed)
      simpa [Spelling.digestText, spelling, addressed, digestStart, Glob.isPlain] using plain

theorem WellFormed.isPlain_of_mem_split (h : r.WellFormed) :
    ∀ part ∈ Text.split '/' r.canonical.toList, ∀ c ∈ part, Glob.isPlain c = true := by
  intro part member c inside
  apply h.isPlain_canonical
  rw [← Text.join_split '/' r.canonical.toList]
  exact Text.mem_join_of_mem member inside

/-- A canonical text ends with a colon and a tag or a digest. -/
theorem WellFormed.exists_canonical (h : r.WellFormed) :
    ∃ start last, r.canonical.toList = start ++ ':' :: last ∧ last ≠ [] ∧ ':' ∉ last := by
  cases addressed : r.digest with
  | some digest =>
    have valid := h.digest digest addressed
    refine ⟨r.repositoryPath.toList ++ r.spelling.tagText ++ "@sha256".toList, digest.toList, ?_,
      ne_nil_of_isDigest valid, colon_not_mem_of_isDigest valid⟩
    have text : r.spelling.digestText = "@sha256".toList ++ ':' :: digest.toList := by
      simp [Spelling.digestText, spelling, addressed, digestStart]
    rw [canonical_toList, Spelling.text, ← repositoryPath_toList, text,
      List.append_assoc _ _ (_ :: _)]
  | none =>
    obtain ⟨tag, tagged⟩ := Option.ne_none_iff_exists'.mp fun untagged =>
      h.addressed untagged addressed
    have valid := h.tag tag tagged
    refine ⟨r.repositoryPath.toList, tag.toList, ?_, ne_nil_of_isTag valid,
      not_mem_of_isTag valid (by simp)⟩
    simp [canonical, tagged, addressed]

theorem WellFormed.canonical_ne_concat (h : r.WellFormed) (before : List Char) :
    r.canonical.toList ≠ before ++ [':'] := by
  obtain ⟨start, last, text, more, free⟩ := h.exists_canonical
  intro same
  rw [text] at same
  have ends := congrArg List.getLast? same
  rw [List.getLast?_concat, List.getLast?_append, List.getLast?_cons_of_ne_nil more,
    Option.or_eq_some_iff] at ends
  rcases ends with ends | ⟨empty, -⟩
  · exact free (List.mem_of_getLast? ends)
  · exact more (List.getLast?_eq_none_iff.mp empty)

end Reference

namespace Rule

section SharedStarts

variable {part other : List Char} {parts others : List (List Char)}

theorem sharedStart_le (part other : List Char) : sharedStart part other ≤ other.length := by
  rw [sharedStart]
  calc _ ≤ (part.zip other).length := List.IsPrefix.length_le (List.takeWhile_prefix _)
    _ ≤ other.length := by
      rw [List.length_zip]
      exact Nat.min_le_right _ _

theorem sharedStart_eq_length : sharedStart part other = other.length ↔ other <+: part := by
  rw [← Specificity.commonLength_eq]
  induction other generalizing part with
  | nil => cases part <;> simp [Specificity.commonLength]
  | cons b other ih =>
    cases part with
    | nil => simp [Specificity.commonLength]
    | cons a part =>
      rw [Specificity.commonLength, List.cons_prefix_cons]
      by_cases same : a = b
      · simp [same, ih]
      · simp [same, Ne.symm same]

/-- As many components as the image has share with them place by place. -/
theorem sharedStarts_eq {rule : Rule} {image : Reference}
    (even : rule.components.length = (Text.split '/' image.canonical.toList).length) :
    rule.sharedStarts image =
      List.zipWith sharedStart rule.components (Text.split '/' image.canonical.toList) := by
  apply List.ext_getElem
  · simp [sharedStarts, even]
  · intro place _ inside
    have present : place < (Text.split '/' image.canonical.toList).length := by
      rw [List.length_zipWith] at inside
      omega
    simp [sharedStarts, present]

theorem zipWith_sharedStart_of_starts (starts : List.Forall₂ (· <+: ·) others parts) :
    List.zipWith sharedStart parts others = others.map List.length := by
  induction starts with
  | nil => rfl
  | cons first _ ih =>
    rw [List.zipWith_cons_cons, List.map_cons, ih, sharedStart_eq_length.mpr first]

/-- Components that do not all begin with others share less with them. -/
theorem starts_or_zipWith_sharedStart_lt (even : parts.length = others.length) :
    List.Forall₂ (· <+: ·) others parts ∨
      List.zipWith sharedStart parts others < others.map List.length := by
  induction others generalizing parts with
  | nil =>
    obtain rfl := List.eq_nil_of_length_eq_zero even
    exact .inl .nil
  | cons other others ih =>
    obtain ⟨part, parts, rfl⟩ := List.exists_cons_of_length_eq_add_one even
    rw [List.zipWith_cons_cons, List.map_cons, List.cons_lt_cons_iff, List.forall₂_cons,
      ← sharedStart_eq_length]
    rcases (sharedStart_le part other).lt_or_eq with less | same
    · exact .inr (.inl less)
    · rcases ih (Nat.succ.inj even) with starts | less
      · exact .inl ⟨same, starts⟩
      · exact .inr (.inr ⟨same, less⟩)

end SharedStarts

section Starred

variable {rule exact : Rule} {image : Reference} {stars : List ℕ}

/-- A pattern is the canonical text of an image with some `*` appended to its components. -/
structure Starred (rule : Rule) (image : Reference) (stars : List ℕ) : Prop where
  lengths : stars.length = (Text.split '/' image.canonical.toList).length
  pattern : rule.pattern.toList =
    Text.join '/' (Glob.starred (Text.split '/' image.canonical.toList) stars)

/-- No bracket in the pattern lists a slash. -/
def SlashFree (rule : Rule) : Prop :=
  ∃ elements, Glob.Reads rule.glob elements ∧ ∀ element ∈ elements, element.SlashFree

theorem slashFree_of_append {cs rest : List Char} {elements : List Glob.Element}
    (written : rule.glob = cs ++ rest) (plain : ∀ c ∈ cs, Glob.isPlain c = true)
    (reads : Glob.Reads rest elements) (free : ∀ element ∈ elements, element.SlashFree) :
    rule.SlashFree := by
  refine ⟨_, written ▸ Glob.reads_plain plain reads, ?_⟩
  rw [List.forall_mem_append, List.forall_mem_map]
  exact ⟨fun _ _ => trivial, free⟩

/-- The priority of a pattern that begins with the components of an image, and has some more
characters after the registry. -/
def exactPriority (image : Reference) (more : ℕ) : ℕ ×ₗ List ℕ ×ₗ ℕ :=
  let parts := Text.split '/' image.canonical.toList
  toLex (parts.length, toLex (parts.map List.length, (parts.headD []).length + more))

/-- With nothing appended, it is the canonical text itself. -/
theorem starred_of_exact (exact : rule.pattern = image.canonical) :
    rule.Starred image (List.replicate (Text.split '/' image.canonical.toList).length 0) where
  lengths := List.length_replicate
  pattern := by
    rw [Glob.starred_zero, Text.join_split, exact]

theorem filter_join_starred (formed : image.WellFormed)
    (lengths : stars.length = (Text.split '/' image.canonical.toList).length) :
    (Text.join '/' (Glob.starred (Text.split '/' image.canonical.toList) stars)).filter (· ≠ '*') =
      image.canonical.toList := by
  rw [Glob.filter_starred lengths, Text.join_split]
  intro part member star
  have plain := formed.isPlain_of_mem_split part member '*' star
  contradiction

namespace Starred

variable (formed : image.WellFormed) (starred : rule.Starred image stars)

include formed starred

theorem filter_pattern :
    rule.pattern.toList.filter (· ≠ '*') = image.canonical.toList := by
  rw [starred.pattern, filter_join_starred formed starred.lengths]

theorem glob_eq : rule.glob = rule.pattern.toList := by
  obtain ⟨start, last, text, -⟩ := formed.exists_canonical
  have colon : ':' ∈ rule.pattern.toList := by
    have kept : ':' ∈ rule.pattern.toList.filter (· ≠ '*') := by
      rw [filter_pattern formed starred, text]
      simp
    exact List.mem_of_mem_filter kept
  rw [glob]
  simp [colon]

theorem components_eq :
    rule.components = Glob.starred (Text.split '/' image.canonical.toList) stars := by
  rw [components, glob_eq formed starred, starred.pattern]
  apply Glob.split_starred starred.lengths (Text.split_ne_nil '/' _)
  exact Text.not_mem_of_mem_split

theorem matches_image : rule.Matches image := by
  have plain : ∀ c ∈ rule.glob, c = '*' ∨ Glob.isPlain c = true := by
    intro c member
    by_cases star : c = '*'
    · exact .inl star
    · right
      apply formed.isPlain_canonical
      rw [← filter_pattern formed starred, List.mem_filter]
      rw [glob_eq formed starred] at member
      exact ⟨member, by simpa using star⟩
  obtain ⟨pieces, read, matched⟩ := Glob.exists_matches plain
  rw [glob_eq formed starred, filter_pattern formed starred] at matched
  exact ⟨pieces, read, matched⟩

theorem priority_eq : rule.priority image = exactPriority image (stars.headD 0) := by
  have components := components_eq formed starred
  have even : rule.components.length = (Text.split '/' image.canonical.toList).length := by
    rw [components, Glob.length_starred starred.lengths]
  have shared : rule.sharedStarts image =
      (Text.split '/' image.canonical.toList).map List.length := by
    rw [sharedStarts_eq even, components]
    exact zipWith_sharedStart_of_starts (Glob.starts_starred starred.lengths)
  rw [priority, even, shared, components, Glob.length_head_starred starred.lengths]
  rfl

end Starred

/-- The tag that a pattern is given if it names none does not make it a canonical text. -/
theorem starred_of_glob (formed : image.WellFormed)
    (lengths : stars.length = (Text.split '/' image.canonical.toList).length)
    (written : rule.glob =
      Text.join '/' (Glob.starred (Text.split '/' image.canonical.toList) stars)) :
    rule.Starred image stars := by
  refine ⟨lengths, ?_⟩
  rw [← written]
  by_cases colon : ':' ∈ rule.pattern.toList
  · rw [glob]
    simp [colon]
  · have kept := filter_join_starred formed lengths
    rw [← written, glob_of_colonless colon, List.filter_append] at kept
    exact absurd kept.symm (formed.canonical_ne_concat _)

/-- Of the patterns that match an image, only its canonical text with some `*` appended to its
components is as specific as that text. -/
theorem priority_lt_or_starred (formed : image.WellFormed) (matched : rule.Matches image)
    (free : rule.SlashFree) :
    rule.priority image < exactPriority image 0 ∨ ∃ stars, rule.Starred image stars := by
  obtain ⟨elements, reads, free⟩ := free
  obtain ⟨pieces, read, matched⟩ := matched
  have source := reads.flatten_source
  rw [reads.pieces?_eq] at read
  -- Every slash of the pattern matches one of the image, so it has no more components. If it has as
  -- many, they share less with those of the image or begin with them, and then only `*` can follow.
  obtain ⟨short, named⟩ := matched.singles_le read
  have fewer : rule.components.length ≤ (Text.split '/' image.canonical.toList).length := by
    rw [components, Text.length_split, Text.length_split, ← source, Glob.count_slash free]
    exact Nat.succ_le_succ (named '/')
  rcases fewer.lt_or_eq with less | even
  · left
    rw [priority, exactPriority, Prod.Lex.toLex_lt_toLex]
    exact .inl less
  · rcases starts_or_zipWith_sharedStart_lt even with starts | less
    · right
      have split : Text.split '/' (elements.map Glob.Element.source).flatten = rule.components := by
        rw [source, components]
      obtain ⟨enough, tight⟩ := Glob.carries_of_starts free formed.isPlain_of_mem_split split starts
      rw [Text.join_split] at enough tight
      obtain ⟨stars, lengths, written⟩ := tight (Nat.le_antisymm enough short)
      refine ⟨stars, starred_of_glob formed lengths ?_⟩
      rw [← written, components, Text.join_split]
    · left
      rw [priority, exactPriority, Prod.Lex.toLex_lt_toLex, sharedStarts_eq even,
        Prod.Lex.toLex_lt_toLex]
      exact .inr ⟨even, .inl less⟩

end Starred

end Rule

namespace Policy

section Exact

variable {rules : List Rule} {rule exact : Rule} {policy : Policy} {image : Reference}
  {text : String}

theorem exceeds_iff_priority {rule other : Rule} :
    (Specificity.of rule.glob image.canonical.toList).exceeds
        (Specificity.of other.glob image.canonical.toList) = true ↔
      other.priority image < rule.priority image := by
  rw [Specificity.exceeds_iff (Specificity.even_of _ _) (Specificity.even_of _ _),
    Specificity.key_lt_key]

theorem exactPriority_le {less more : ℕ} :
    Rule.exactPriority image less ≤ Rule.exactPriority image more ↔ less ≤ more := by
  simp [Rule.exactPriority, Prod.Lex.toLex_le_toLex]

theorem exactPriority_lt {less more : ℕ} :
    Rule.exactPriority image less < Rule.exactPriority image more ↔ less < more := by
  rw [← not_le, exactPriority_le, not_le]

theorem exactPriority_le_iff (formed : image.WellFormed) (matched : rule.Matches image)
    (free : rule.SlashFree) :
    Rule.exactPriority image 0 ≤ rule.priority image ↔ ∃ stars, rule.Starred image stars := by
  constructor
  · intro greater
    rcases Rule.priority_lt_or_starred formed matched free with less | starred
    · exact absurd less (not_lt.mpr greater)
    · exact starred
  · rintro ⟨stars, starred⟩
    rw [starred.priority_eq formed, exactPriority_le]
    exact Nat.zero_le _

theorem exactPriority_lt_iff (formed : image.WellFormed) (matched : rule.Matches image)
    (free : rule.SlashFree) :
    Rule.exactPriority image 0 < rule.priority image ↔
      ∃ stars, rule.Starred image stars ∧ 0 < stars.headD 0 := by
  constructor
  · intro greater
    obtain ⟨stars, starred⟩ := (exactPriority_le_iff formed matched free).mp greater.le
    rw [starred.priority_eq formed, exactPriority_lt] at greater
    exact ⟨stars, starred, greater⟩
  · rintro ⟨stars, starred, longer⟩
    rwa [starred.priority_eq formed, exactPriority_lt]

theorem priority_of_exact (formed : image.WellFormed) (literal : exact.pattern = image.canonical) :
    exact.Matches image ∧ exact.priority image = Rule.exactPriority image 0 := by
  have starred := Rule.starred_of_exact literal
  have unstarred :
      (List.replicate (Text.split '/' image.canonical.toList).length 0).headD 0 = 0 := by
    cases (Text.split '/' image.canonical.toList).length <;> rfl
  refine ⟨starred.matches_image formed, ?_⟩
  rw [starred.priority_eq formed, unstarred]

/-- Where a rule for just the canonical text of an image is declared, the rule that is selected has
that text as its pattern, possibly with some `*` appended to its components: of all such rules it is
the first one of those with the most `*` behind the registry. So the rule for just that text is
selected wherever no other one is for that text. Of all patterns that match, only those with `*`
behind the registry are more specific, and only such patterns are not less specific. Patterns that
match the image and list a slash in brackets are left out. -/
theorem exact_rule_selected (compiled : compile rules = .ok policy)
    (parsed : Reference.parse text = .ok image) (declared : exact ∈ rules)
    (literal : exact.pattern = image.canonical)
    (slashFree : ∀ rule ∈ rules, rule.Matches image → rule.SlashFree) :
    (∃ chosen stars, policy.select image = .ok chosen ∧
      rules[chosen.index]? = some chosen.rule ∧ chosen.rule.Starred image stars ∧
      ∀ place rule others, rules[place]? = some rule → rule.Starred image others →
        others.headD 0 < stars.headD 0 ∨
          others.headD 0 = stars.headD 0 ∧ chosen.index ≤ place) ∧
      ((∀ rule ∈ rules, ∀ stars, rule.Starred image stars → rule.pattern = image.canonical) →
        ∃ chosen, policy.select image = .ok chosen ∧ chosen.rule.pattern = image.canonical) ∧
      ∀ rule : Rule, rule.Matches image → rule.SlashFree →
        ((Specificity.of rule.glob image.canonical.toList).exceeds
            (Specificity.of exact.glob image.canonical.toList) = true ↔
          ∃ stars, rule.Starred image stars ∧ 0 < stars.headD 0) ∧
        ((Specificity.of exact.glob image.canonical.toList).exceeds
            (Specificity.of rule.glob image.canonical.toList) = false ↔
          ∃ stars, rule.Starred image stars) := by
  have formed := Reference.wellFormed_of_parse parsed
  obtain ⟨matched, priority⟩ := priority_of_exact formed literal
  obtain ⟨best, selected, chosen⟩ :
      ∃ best, policy.select image = .ok best ∧ Chosen rules image best.index best.rule := by
    rcases select_cases compiled image with found | ⟨-, unmatched⟩
    · exact found
    · exact absurd matched (unmatched exact declared)
  have greatest := chosen.greatest exact declared matched
  rw [priority, exactPriority_le_iff formed chosen.matched (slashFree _ chosen.mem chosen.matched)]
    at greatest
  obtain ⟨stars, starred⟩ := greatest
  refine ⟨⟨best, stars, selected, chosen.declared, starred, ?_⟩, ?_, ?_⟩
  · intro place rule others found alike
    have aligned := alike.priority_eq formed
    have bounded := chosen.greatest rule (List.mem_of_getElem? found) (alike.matches_image formed)
    rw [aligned, starred.priority_eq formed, exactPriority_le] at bounded
    rcases bounded.lt_or_eq with less | same
    · exact .inl less
    · refine .inr ⟨same, chosen.earliest place rule found (alike.matches_image formed) ?_⟩
      rw [aligned, starred.priority_eq formed, same]
  · intro alone
    exact ⟨best, selected, alone best.rule chosen.mem stars starred⟩
  · intro rule matched free
    constructor
    · rw [exceeds_iff_priority, priority, exactPriority_lt_iff formed matched free]
    · rw [← Bool.not_eq_true, exceeds_iff_priority, not_lt, priority,
        exactPriority_le_iff formed matched free]

end Exact

section Tagged

/-- What `image:v1` stands for. -/
def taggedImage : Reference :=
  ⟨Reference.defaultRegistry, Reference.defaultRepository, "image", some "v1", none⟩

theorem parse_taggedImage : Reference.parse "image:v1" = .ok taggedImage :=
  Reference.parse_eq_ok.mpr (by decide +kernel)

def exactRule : Rule :=
  plainRule "docker.io/library/image:v1"

def bracketRule : Rule :=
  plainRule "docker.io/library/image:v[12]"

/-- A rule for the canonical text of the image with a `*` behind the registry. -/
def starRule : Rule :=
  plainRule "docker.io*/library/image:v1"

theorem slashFree_exactRule : exactRule.SlashFree := by
  have formed := Reference.wellFormed_of_parse parse_taggedImage
  have written : exactRule.glob = taggedImage.canonical.toList ++ [] := by decide +kernel
  exact Rule.slashFree_of_append written formed.isPlain_canonical .nil (by simp)

theorem slashFree_bracketRule : bracketRule.SlashFree := by
  have formed := Reference.wellFormed_of_parse parse_taggedImage
  have written : bracketRule.glob =
      taggedImage.repositoryPath.toList ++ [':', 'v', '[', '1', '2', ']'] := by
    decide +kernel
  have closed : Glob.Encloses ['1', '2', ']'] false ['1', '2'] [] :=
    @Glob.Encloses.plain '1' ['2'] [] (by decide) (by decide)
  refine Rule.slashFree_of_append written formed.isPlain_repositoryPath
    (.char (by decide) (.char (by decide) (.bracket closed .nil))) ?_
  simp [Glob.Element.SlashFree]

theorem exists_compile_pair {first second : Rule}
    (readFirst : (Glob.pieces? first.glob).isSome = true)
    (readSecond : (Glob.pieces? second.glob).isSome = true) :
    ∃ policy, compile [first, second] = .ok policy := by
  obtain ⟨firstPieces, readFirst⟩ := Option.isSome_iff_exists.mp readFirst
  obtain ⟨secondPieces, readSecond⟩ := Option.isSome_iff_exists.mp readSecond
  refine ⟨⟨[⟨0, first, firstPieces⟩, ⟨1, second, secondPieces⟩]⟩, compile_eq_ok.mpr ?_⟩
  refine .cons ?_ (.cons ?_ .nil)
  · exact compileRule_eq_ok.mpr ⟨_, readFirst, rfl⟩
  · exact compileRule_eq_ok.mpr ⟨_, readSecond, rfl⟩

theorem matches_of_covers {rule : Rule} {image : Reference}
    (h : (Glob.pieces? rule.glob).any (Glob.covers · image.canonical.toList) = true) :
    rule.Matches image := by
  obtain ⟨pieces, read, covered⟩ := (Option.any_eq_true _ _).mp h
  exact ⟨pieces, read, Glob.covers_iff.mp covered⟩

/-- A bracket in the pattern of another rule does not take the image away from the rule for it. -/
theorem exact_rule_selected_over_bracket :
    ∃ policy, compile [bracketRule, exactRule] = .ok policy ∧
      Reference.parse "image:v1" = .ok taggedImage ∧
      exactRule ∈ [bracketRule, exactRule] ∧ exactRule.pattern = taggedImage.canonical ∧
      (∀ rule ∈ [bracketRule, exactRule], rule.Matches taggedImage ∧ rule.SlashFree) ∧
      ∃ chosen, policy.select taggedImage = .ok chosen ∧
        chosen.rule.pattern = taggedImage.canonical := by
  obtain ⟨policy, compiled⟩ : ∃ policy, compile [bracketRule, exactRule] = .ok policy :=
    exists_compile_pair (by decide +kernel) (by decide +kernel)
  have literal : exactRule.pattern = taggedImage.canonical := by decide +kernel
  have formed := Reference.wellFormed_of_parse parse_taggedImage
  have matched : ∀ rule ∈ [bracketRule, exactRule], rule.Matches taggedImage := by
    rw [List.forall_mem_cons, List.forall_mem_singleton]
    exact ⟨matches_of_covers (by decide +kernel), matches_of_covers (by decide +kernel)⟩
  have slashFree : ∀ rule ∈ [bracketRule, exactRule], rule.SlashFree := by
    simp [slashFree_bracketRule, slashFree_exactRule]
  have member : exactRule ∈ [bracketRule, exactRule] := by simp
  obtain ⟨-, alone, -⟩ := exact_rule_selected compiled parse_taggedImage member literal
    fun rule member _ => slashFree rule member
  refine ⟨policy, compiled, parse_taggedImage, member, literal, ?_, alone ?_⟩
  · intro rule member
    exact ⟨matched rule member, slashFree rule member⟩
  · intro rule member stars starred
    have kept := starred.filter_pattern formed
    rcases List.mem_cons.mp member with rfl | member
    · revert kept
      decide +kernel
    · rw [List.mem_singleton.mp member, literal]

/-- With a `*` behind the registry, a pattern is more specific than the canonical text itself. -/
theorem starRule_selected_over_exact :
    Reference.parse "image:v1" = .ok taggedImage ∧ exactRule.pattern = taggedImage.canonical ∧
      starRule.pattern ≠ taggedImage.canonical ∧
      ∃ policy, compile [exactRule, starRule] = .ok policy ∧
        (∃ chosen, policy.select taggedImage = .ok chosen ∧ chosen.rule = starRule) ∧
        (Specificity.of starRule.glob taggedImage.canonical.toList).exceeds
          (Specificity.of exactRule.glob taggedImage.canonical.toList) = true := by
  obtain ⟨policy, compiled⟩ : ∃ policy, compile [exactRule, starRule] = .ok policy :=
    exists_compile_pair (by decide +kernel) (by decide +kernel)
  have greater : (Specificity.of starRule.glob taggedImage.canonical.toList).exceeds
      (Specificity.of exactRule.glob taggedImage.canonical.toList) = true := by
    decide +kernel
  have matched : starRule.Matches taggedImage := matches_of_covers (by decide +kernel)
  refine ⟨parse_taggedImage, by decide +kernel, by decide +kernel, policy, compiled, ?_, greater⟩
  rcases select_cases compiled taggedImage with ⟨best, selected, chosen⟩ | ⟨-, unmatched⟩
  · refine ⟨best, selected, ?_⟩
    rcases List.mem_cons.mp chosen.mem with exact | other
    · have bounded := chosen.greatest starRule (by simp) matched
      rw [exceeds_iff_priority] at greater
      rw [exact] at bounded
      exact absurd greater (not_lt.mpr bounded)
    · exact List.mem_singleton.mp other
  · exact absurd matched (unmatched starRule (by simp))

end Tagged

end Policy

end SignedAdmission
