/-! Looking up keys in lists of entries, where the first entry of a key counts. -/
namespace SignedAdmission

theorem lookup_cons_eq_ite {α β : Type} [BEq α] [LawfulBEq α] [DecidableEq α] (key other : α)
    (value : β) (rest : List (α × β)) :
    ((other, value) :: rest).lookup key =
      if key = other then some value else rest.lookup key := by
  by_cases same : key = other
  · subst same
    simp
  · simp [List.lookup_cons, beq_eq_false_iff_ne.mpr same, same]

/-- Where no key comes twice, just the entries are found. -/
theorem lookup_eq_some_iff_mem {α β : Type} [BEq α] [LawfulBEq α] {entries : List (α × β)}
    (distinct : (entries.map Prod.fst).Nodup) {key : α} {value : β} :
    entries.lookup key = some value ↔ (key, value) ∈ entries := by
  induction entries with
  | nil => simp
  | cons entry entries ih =>
    obtain ⟨other, found⟩ := entry
    rw [List.map_cons, List.nodup_cons] at distinct
    obtain ⟨absent, distinct⟩ := distinct
    rw [List.mem_cons, Prod.mk.injEq, ← ih distinct]
    by_cases same : key = other
    · subst same
      have unlisted : entries.lookup key ≠ some value := by
        rw [Ne, ih distinct]
        intro member
        exact absent (List.mem_map.mpr ⟨_, member, rfl⟩)
      simp [unlisted, eq_comm]
    · simp [List.lookup_cons, beq_eq_false_iff_ne.mpr same, same]

end SignedAdmission
