import SignedAdmission.Proofs.Policy.Compilation
import SignedAdmission.Proofs.Policy.Glob
import SignedAdmission.Proofs.Policy.Selection
import SignedAdmission.Proofs.Reference.Canonical

/-! Rules for whole repositories. A pattern that is the path of a repository covers every tagged
image in it, with or without a digest, and no image that only names a digest. -/
namespace SignedAdmission

open Checks

namespace Reference

variable {r : Reference}

theorem WellNamed.repositoryPath_chars (h : r.WellNamed) :
    ∀ c ∈ r.repositoryPath.toList, c = '/' ∨ isNameChar c = true := by
  intro c member
  rw [repositoryPath_toList] at member
  obtain slash | ⟨part, parts, inside⟩ := Text.mem_join member
  · exact .inl slash
  · exact .inr (h.named.isNameChar_path part parts c inside)

/-- Nothing in the path of a repository is special in a glob. -/
theorem WellNamed.isPlain_repositoryPath (h : r.WellNamed) :
    ∀ c ∈ r.repositoryPath.toList, Glob.isPlain c = true := by
  intro c member
  obtain rfl | nameChar := h.repositoryPath_chars c member
  · rfl
  · simp only [Glob.isPlain, Bool.and_eq_true, bne_iff_ne]
    refine ⟨⟨?_, ?_⟩, ?_⟩ <;>
    · rintro rfl
      contradiction

/-- Only the port of a registry puts a colon into the path of a repository. -/
theorem WellNamed.colon_not_mem_repositoryPath (h : r.WellNamed)
    (portless : ':' ∉ r.registry.toList) : ':' ∉ r.repositoryPath.toList := by
  rw [repositoryPath_toList]
  intro member
  obtain slash | ⟨part, parts, inside⟩ := Text.mem_join member
  · contradiction
  · have parts : part = r.registry.toList ∨ part ∈ r.path ∨ part = r.name.toList := by
      simpa [spelling] using parts
    obtain rfl | repository | rfl := parts
    · exact portless inside
    · exact colon_not_mem_of_isComponent (h.path part repository) inside
    · exact colon_not_mem_of_isComponent h.name inside

/-- A colon directly after the path of the repository starts a tag. -/
theorem tagged_iff_prefix (r : Reference) :
    r.repositoryPath.toList ++ [':'] <+: r.canonical.toList ↔ r.tag ≠ none := by
  rw [canonical_toList, repositoryPath_toList, Spelling.text, List.append_assoc,
    List.prefix_append_right_inj]
  cases tag : r.tag with
  | some tag => simp [Spelling.tagText, spelling, tag]
  | none =>
    cases digest : r.digest <;>
      simp [Spelling.tagText, Spelling.digestText, spelling, tag, digest]

end Reference

namespace Rule

theorem glob_of_colonless {rule : Rule} (h : ':' ∉ rule.pattern.toList) :
    rule.glob = rule.pattern.toList ++ [':', '*'] := by
  simp [glob, h]

end Rule

namespace Policy

section Repositories

variable {rules : List Rule} {rule : Rule} {policy : Policy} {r : Reference} {text : String}

/-- A rule for the repository of a reference, on a registry without a port. -/
structure ForRepository (rule : Rule) (r : Reference) : Prop where
  portless : ':' ∉ r.registry.toList
  pattern : rule.pattern = r.repositoryPath

theorem ForRepository.pieces?_glob (h : ForRepository rule r) (named : r.WellNamed) :
    Glob.pieces? rule.glob = some (Glob.tagged r.repositoryPath.toList) := by
  have colonless := named.colon_not_mem_repositoryPath h.portless
  rw [← h.pattern] at colonless
  rw [Rule.glob_of_colonless colonless, h.pattern,
    Glob.pieces?_tagged named.isPlain_repositoryPath]

/-- A policy selects a rule if one covers the image, and then none that covers it is more
specific. -/
theorem select_of_covers {compiled : CompiledRule} (member : compiled ∈ policy.rules)
    (covers : Glob.covers compiled.pieces r.canonical.toList = true) :
    ∃ chosen, policy.select r = .ok chosen ∧ chosen ∈ policy.rules ∧
      Glob.covers chosen.pieces r.canonical.toList = true ∧
      (Specificity.of compiled.rule.glob r.canonical.toList).exceeds
        (Specificity.of chosen.rule.glob r.canonical.toList) = false := by
  have covering : compiled ∈ policy.covering r.canonical.toList :=
    List.mem_filter.mpr ⟨member, covers⟩
  obtain ⟨chosen, selected, best⟩ := select?_firstBest (List.ne_nil_of_mem covering)
  obtain ⟨present, matched⟩ := List.mem_filter.mp best.mem
  refine ⟨chosen, by rw [select, selected], present, matched, ?_⟩
  rw [Bool.eq_false_iff, Ne, Specificity.exceeds_iff (Specificity.even_of _ _)
    (Specificity.even_of _ _), not_lt]
  exact best.rank_le compiled covering

/-- A rule for the repository of an image compiles, and covers the image exactly if it has a tag.
Then no policy with that rule falls through to a less specific one. -/
theorem repository_rule_selects (parsed : Reference.parse text = .ok r)
    (repository : ForRepository rule r) :
    ∃ pieces, Glob.pieces? rule.glob = some pieces ∧
      (Glob.covers pieces r.canonical.toList = true ↔ r.tag ≠ none) ∧
      ∀ rules policy, rule ∈ rules → compile rules = .ok policy → r.tag ≠ none →
        ∃ chosen, policy.select r = .ok chosen ∧ chosen ∈ policy.rules ∧
          Glob.covers chosen.pieces r.canonical.toList = true ∧
          (Specificity.of rule.glob r.canonical.toList).exceeds
            (Specificity.of chosen.rule.glob r.canonical.toList) = false := by
  have named := (Reference.wellFormed_of_parse parsed).toWellNamed
  have read := repository.pieces?_glob named
  have covers_iff := Glob.covers_tagged.trans r.tagged_iff_prefix
  refine ⟨_, read, covers_iff, fun rules policy member compiled tagged => ?_⟩
  obtain ⟨compiledRule, present, rfl, pieces⟩ := mem_of_compile compiled member
  rw [read, Option.some.injEq] at pieces
  exact select_of_covers present (pieces ▸ covers_iff.mpr tagged)

end Repositories

/-- A rule for the default validator. -/
def plainRule (pattern : String) : Rule :=
  ⟨pattern, none, []⟩

theorem forRepository_teamImage :
    ForRepository (plainRule "docker.io/team/image") Reference.teamImage :=
  ⟨by decide +kernel, by decide +kernel⟩

theorem repository_rule_selects_for_teamImage :
    Reference.parse "team/image" = .ok Reference.teamImage ∧
      ForRepository (plainRule "docker.io/team/image") Reference.teamImage ∧
      ∃ pieces, Glob.pieces? (plainRule "docker.io/team/image").glob = some pieces ∧
        (Glob.covers pieces Reference.teamImage.canonical.toList = true ↔
          Reference.teamImage.tag ≠ none) ∧
        ∀ rules policy, plainRule "docker.io/team/image" ∈ rules → compile rules = .ok policy →
          Reference.teamImage.tag ≠ none →
          ∃ chosen, policy.select Reference.teamImage = .ok chosen ∧ chosen ∈ policy.rules ∧
            Glob.covers chosen.pieces Reference.teamImage.canonical.toList = true ∧
            (Specificity.of (plainRule "docker.io/team/image").glob
                Reference.teamImage.canonical.toList).exceeds
              (Specificity.of chosen.rule.glob Reference.teamImage.canonical.toList) = false :=
  ⟨Reference.parse_teamImage, forRepository_teamImage,
    repository_rule_selects Reference.parse_teamImage forRepository_teamImage⟩

/-- An image that names a digest and no tag. -/
def digestText : String :=
  "team/image@sha256:1388abc7a12532836c3a81bdb0087409b15208f5aeba7a87aedcfd56d637c145"

def digestImage : Reference :=
  { Reference.teamImage with
    tag := none
    digest := some "1388abc7a12532836c3a81bdb0087409b15208f5aeba7a87aedcfd56d637c145" }

/-- By its digest alone, an image gets past the rule for its repository to a weaker one. -/
theorem digestImage_falls_through :
    Reference.parse digestText = .ok digestImage ∧
      ForRepository (plainRule "docker.io/team/image") digestImage ∧
      ∃ policy chosen,
        compile [plainRule "docker.io/team/image", plainRule "*"] = .ok policy ∧
        policy.select digestImage = .ok chosen ∧ chosen.rule.pattern = "*" ∧
        (Specificity.of (plainRule "docker.io/team/image").glob
            digestImage.canonical.toList).exceeds
          (Specificity.of chosen.rule.glob digestImage.canonical.toList) = true := by
  have parsed : Reference.parse digestText = .ok digestImage :=
    Reference.parse_eq_ok.mpr (by decide +kernel)
  have repository : ForRepository (plainRule "docker.io/team/image") digestImage :=
    ⟨by decide +kernel, by decide +kernel⟩
  have named := (Reference.wellFormed_of_parse parsed).toWellNamed
  have read := repository.pieces?_glob named
  have readAny : Glob.pieces? (plainRule "*").glob = some [.anyText, .char ':', .anyText] := by
    decide +kernel
  have missed : Glob.covers (Glob.tagged digestImage.repositoryPath.toList)
      digestImage.canonical.toList = false := by
    rw [Bool.eq_false_iff, Ne, Glob.covers_tagged, Reference.tagged_iff_prefix]
    simp [digestImage]
  have matched : Glob.covers [.anyText, .char ':', .anyText] digestImage.canonical.toList =
      true := by
    decide +kernel
  let passed : CompiledRule :=
    ⟨0, plainRule "docker.io/team/image", Glob.tagged digestImage.repositoryPath.toList⟩
  let chosen : CompiledRule := ⟨1, plainRule "*", [.anyText, .char ':', .anyText]⟩
  refine ⟨parsed, repository, ⟨[passed, chosen]⟩, chosen, ?_, ?_, rfl, by decide +kernel⟩
  · simp only [compile, bind_eq_ok, mapM_eq_ok, pure_eq_ok]
    exact ⟨_, .cons (compileRule_eq_ok.mpr ⟨_, read, rfl⟩)
      (.cons (compileRule_eq_ok.mpr ⟨_, readAny, rfl⟩) .nil), rfl⟩
  · simp [select, select?, passed, chosen, missed, matched, better]

end Policy

end SignedAdmission
