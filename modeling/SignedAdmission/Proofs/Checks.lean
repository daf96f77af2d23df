import Mathlib.Data.List.Forall2

/-! Sequences of checks. A sequence succeeds exactly if every check in it does, and otherwise ends
with the fault of the first check that fails. -/
namespace SignedAdmission.Checks

universe u v

section Steps

variable {ε ε' : Type u} {α β : Type v} {first : Except ε α} {next : α → Except ε β}

@[simp]
theorem bind_eq_ok {result : β} :
    (first >>= next) = .ok result ↔ ∃ value, first = .ok value ∧ next value = .ok result := by
  cases first <;> simp [bind, Except.bind]

@[simp]
theorem bind_eq_error {fault : ε} :
    (first >>= next) = .error fault ↔
      first = .error fault ∨ ∃ value, first = .ok value ∧ next value = .error fault := by
  cases first <;> simp [bind, Except.bind]

@[simp]
theorem pure_eq_ok {value result : α} :
    (pure value : Except ε α) = .ok result ↔ value = result := by
  simp [pure, Except.pure]

@[simp]
theorem pure_ne_error {value : α} {fault : ε} : (pure value : Except ε α) ≠ .error fault := by
  simp [pure, Except.pure]

@[simp]
theorem throw_ne_ok {fault : ε} {result : α} : (throw fault : Except ε α) ≠ .ok result := by
  simp [throw, throwThe, MonadExceptOf.throw]

/-- Rewording a fault leaves successes as they are. -/
@[simp]
theorem mapError_eq_ok {reword : ε → ε'} {result : α} :
    first.mapError reword = .ok result ↔ first = .ok result := by
  cases first <;> simp [Except.mapError]

@[simp]
theorem exists_unit_eq_ok {check : Except ε Unit} {p : Prop} :
    (∃ done, check = .ok done ∧ p) ↔ check = .ok () ∧ p :=
  ⟨fun ⟨(), h⟩ => h, fun h => ⟨(), h⟩⟩

@[simp]
theorem discard_ok (value : α) : discard (.ok value : Except ε α) = .ok ⟨⟩ := rfl

@[simp]
theorem map_ok (f : α → β) (value : α) :
    f <$> (.ok value : Except ε α) = .ok (f value) := rfl

@[simp]
theorem toOption_ok (value : α) : (.ok value : Except ε α).toOption = some value := rfl

@[simp]
theorem toOption_error (fault : ε) : (.error fault : Except ε α).toOption = none := rfl

theorem toOption_eq_some {value : α} : first.toOption = some value ↔ first = .ok value := by
  cases first <;> simp [Except.toOption]

theorem toOption_eq_none : first.toOption = none ↔ ∃ fault, first = .error fault := by
  cases first <;> simp [Except.toOption]

end Steps

section Lists

variable {ε α β : Type u}

/-- A check of each item succeeds if it does so on every one of them. -/
theorem forM_eq_ok {check : α → Except ε PUnit} {items : List α} :
    items.forM check = .ok ⟨⟩ ↔ ∀ item ∈ items, check item = .ok ⟨⟩ := by
  induction items with
  | nil => simp [List.forM, pure, Except.pure]
  | cons item rest ih =>
    change (check item >>= fun _ => rest.forM check) = _ ↔ _
    simp only [bind_eq_ok, ih, List.forall_mem_cons]
    exact ⟨fun ⟨⟨⟩, first, others⟩ => ⟨first, others⟩, fun h => ⟨⟨⟩, h⟩⟩

/-- A list of results belongs to a list of items, one by one. -/
theorem mapM_eq_ok {step : α → Except ε β} {items : List α} {results : List β} :
    items.mapM step = .ok results ↔
      List.Forall₂ (fun item result => step item = .ok result) items results := by
  induction items generalizing results with
  | nil =>
    rw [List.mapM_nil, pure_eq_ok, List.forall₂_nil_left_iff]
    exact eq_comm
  | cons item rest ih =>
    simp only [List.mapM_cons, bind_eq_ok, pure_eq_ok, ih, List.forall₂_cons_left_iff]
    constructor
    · rintro ⟨result, first, results, others, rfl⟩
      exact ⟨result, results, first, others, rfl⟩
    · rintro ⟨result, results, first, others, rfl⟩
      exact ⟨result, first, results, others, rfl⟩

/-- Results that may be missing belong to a list of items if none is. -/
theorem mapM_eq_some {step : α → Option β} {items : List α} {results : List β} :
    items.mapM step = some results ↔
      List.Forall₂ (fun item result => step item = some result) items results := by
  induction items generalizing results with
  | nil =>
    rw [List.mapM_nil, List.forall₂_nil_left_iff]
    exact Option.some_inj.trans eq_comm
  | cons item rest ih =>
    simp only [List.mapM_cons, Option.bind_eq_bind, Option.bind_eq_some_iff, ih,
      List.forall₂_cons_left_iff]
    constructor
    · rintro ⟨result, first, results, others, ⟨⟩⟩
      exact ⟨result, results, first, others, rfl⟩
    · rintro ⟨result, results, first, others, rfl⟩
      exact ⟨result, first, results, others, rfl⟩

theorem mapM_eq_none {step : α → Option β} {items : List α} :
    items.mapM step = none ↔ ∃ item ∈ items, step item = none := by
  induction items with
  | nil => simp
  | cons item rest ih =>
    simp only [List.exists_mem_cons_iff, ← ih]
    cases first : step item with
    | none => simp [List.mapM_cons, first]
    | some result => cases others : rest.mapM step <;> simp [List.mapM_cons, first, others]

/-- The fault of a list of steps is that of the first step that fails. -/
theorem mapM_eq_error {step : α → Except ε β} {items : List α} {e : ε} :
    items.mapM step = .error e ↔ ∃ before item after, items = before ++ item :: after ∧
      (∀ earlier ∈ before, ∃ result, step earlier = .ok result) ∧ step item = .error e := by
  induction items with
  | nil => simp
  | cons item rest ih =>
    simp only [List.mapM_cons, bind_eq_error, pure_ne_error, and_false, exists_false, or_false, ih]
    constructor
    · rintro (fault | ⟨result, first, before, next, after, rfl, earlier, fault⟩)
      · exact ⟨[], item, rest, rfl, by simp, fault⟩
      · refine ⟨item :: before, next, after, rfl, ?_, fault⟩
        exact List.forall_mem_cons.mpr ⟨⟨result, first⟩, earlier⟩
    · rintro ⟨before, next, after, split, earlier, fault⟩
      cases before with
      | nil =>
        obtain ⟨rfl, rfl⟩ := List.cons.inj split
        exact .inl fault
      | cons head before =>
        obtain ⟨rfl, rfl⟩ := List.cons.inj split
        obtain ⟨⟨result, first⟩, earlier⟩ := List.forall_mem_cons.mp earlier
        exact .inr ⟨result, first, before, next, after, rfl, earlier, fault⟩

theorem exists_mapM_ok {step : α → Except ε β} {items : List α}
    (h : ∀ item ∈ items, ∃ result, step item = .ok result) :
    ∃ results, items.mapM step = .ok results := by
  cases outcome : items.mapM step with
  | ok results => exact ⟨results, rfl⟩
  | error e =>
    obtain ⟨before, item, after, rfl, -, fault⟩ := mapM_eq_error.mp outcome
    obtain ⟨result, read⟩ := h item (by simp)
    simp [read] at fault

end Lists

section Pairs

variable {α β : Type u} {related : α → β → Prop} {items : List α} {results : List β}

theorem exists_of_mem_left (h : List.Forall₂ related items results) :
    ∀ item ∈ items, ∃ result ∈ results, related item result := by
  induction h with
  | nil => simp
  | cons first _ ih =>
    rw [List.forall_mem_cons]
    refine ⟨⟨_, List.mem_cons_self, first⟩, fun item member => ?_⟩
    obtain ⟨result, member, other⟩ := ih item member
    exact ⟨result, List.mem_cons_of_mem _ member, other⟩

theorem exists_of_mem_right (h : List.Forall₂ related items results) :
    ∀ result ∈ results, ∃ item ∈ items, related item result :=
  exists_of_mem_left h.flip

theorem exists_forall₂ (h : ∀ item ∈ items, ∃ result, related item result) :
    ∃ results, List.Forall₂ related items results := by
  induction items with
  | nil => exact ⟨[], .nil⟩
  | cons item rest ih =>
    rw [List.forall_mem_cons] at h
    obtain ⟨⟨result, first⟩, others⟩ := h
    obtain ⟨results, all⟩ := ih others
    exact ⟨result :: results, .cons first all⟩

/-- A relation may be exchanged where it only needs to be known of results that occur. -/
theorem forall₂_imp_of_mem {other : α → β → Prop} (h : List.Forall₂ related items results)
    (carries : ∀ item, ∀ result ∈ results, related item result → other item result) :
    List.Forall₂ other items results := by
  induction h with
  | nil => exact .nil
  | cons first _ ih =>
    refine .cons (carries _ _ List.mem_cons_self first) (ih fun item result member => ?_)
    exact carries item result (List.mem_cons_of_mem _ member)

end Pairs

end SignedAdmission.Checks
