import SignedAdmission.Policy.Selection
import SignedAdmission.Proofs.Checks

/-! Compiled policies. They hold the rules they are compiled from in the same places, each with the
pieces of its own pattern. -/
namespace SignedAdmission.Policy

open Checks

variable {rules : List Rule} {rule : Rule} {policy : Policy} {compiled : CompiledRule}

theorem compileRule_eq_ok {index : Nat} :
    compileRule index rule = .ok compiled ↔
      ∃ pieces, Glob.pieces? rule.glob = some pieces ∧ compiled = ⟨index, rule, pieces⟩ := by
  rw [compileRule]
  cases Glob.pieces? rule.glob <;> simp [eq_comm]

theorem compile_eq_ok :
    compile rules = .ok policy ↔
      List.Forall₂ (fun entry compiled => compileRule entry.2 entry.1 = .ok compiled)
        rules.zipIdx policy.rules := by
  simp only [compile, bind_eq_ok, mapM_eq_ok, pure_eq_ok]
  constructor
  · rintro ⟨_, compiledAll, rfl⟩
    exact compiledAll
  · intro compiledAll
    exact ⟨_, compiledAll, rfl⟩

/-- Every rule of a policy is there with its own pattern. -/
theorem mem_rules_iff (h : compile rules = .ok policy) :
    compiled ∈ policy.rules ↔
      rules[compiled.index]? = some compiled.rule ∧
        Glob.pieces? compiled.rule.glob = some compiled.pieces := by
  have compiledAll := compile_eq_ok.mp h
  constructor
  · intro member
    obtain ⟨⟨rule, index⟩, indexed, same⟩ := exists_of_mem_right compiledAll compiled member
    obtain ⟨pieces, read, rfl⟩ := compileRule_eq_ok.mp same
    exact ⟨List.mem_zipIdx_iff_getElem?.mp indexed, read⟩
  · rintro ⟨found, read⟩
    have indexed : (compiled.rule, compiled.index) ∈ rules.zipIdx :=
      List.mem_zipIdx_iff_getElem?.mpr found
    obtain ⟨other, member, same⟩ := exists_of_mem_left compiledAll _ indexed
    obtain ⟨pieces, again, rfl⟩ := compileRule_eq_ok.mp same
    rw [read, Option.some.injEq] at again
    subst again
    exact member

theorem mem_of_compile (h : compile rules = .ok policy) (member : rule ∈ rules) :
    ∃ compiled ∈ policy.rules, compiled.rule = rule ∧
      Glob.pieces? rule.glob = some compiled.pieces := by
  obtain ⟨index, found⟩ := List.mem_iff_getElem?.mp member
  have indexed : (rule, index) ∈ rules.zipIdx := List.mem_zipIdx_iff_getElem?.mpr found
  obtain ⟨compiled, present, same⟩ := exists_of_mem_left (compile_eq_ok.mp h) _ indexed
  obtain ⟨pieces, read, rfl⟩ := compileRule_eq_ok.mp same
  exact ⟨_, present, rfl, read⟩

/-- Compiled rules come in the order of their places. -/
theorem pairwise_index (h : compile rules = .ok policy) :
    policy.rules.Pairwise fun earlier later => earlier.index < later.index := by
  have places : List.Forall₂ (· = ·) (rules.zipIdx.map Prod.snd)
      (policy.rules.map CompiledRule.index) := by
    rw [List.forall₂_map_left_iff, List.forall₂_map_right_iff]
    apply (compile_eq_ok.mp h).imp
    intro entry compiled same
    obtain ⟨pieces, -, rfl⟩ := compileRule_eq_ok.mp same
    rfl
  rw [List.forall₂_eq_eq_eq] at places
  have ordered : (policy.rules.map CompiledRule.index).Pairwise (· < ·) := by
    rw [← places, List.zipIdx_map_snd]
    exact List.pairwise_lt_range'
  exact List.pairwise_map.mp ordered

/-- The order of the rules does not matter for whether they compile. -/
theorem exists_compile_of_perm {others : List Rule} (h : compile rules = .ok policy)
    (perm : others.Perm rules) : ∃ again, compile others = .ok again := by
  have each : ∀ entry ∈ others.zipIdx, ∃ compiled,
      compileRule entry.2 entry.1 = .ok compiled := by
    intro entry indexed
    have member : entry.1 ∈ rules := by
      apply perm.subset
      exact List.mem_of_getElem? (List.mem_zipIdx_iff_getElem?.mp indexed)
    obtain ⟨compiled, -, -, read⟩ := mem_of_compile h member
    exact ⟨_, compileRule_eq_ok.mpr ⟨_, read, rfl⟩⟩
  obtain ⟨compiledAll, same⟩ := exists_mapM_ok each
  exact ⟨⟨compiledAll⟩, compile_eq_ok.mpr (mapM_eq_ok.mp same)⟩

end SignedAdmission.Policy
