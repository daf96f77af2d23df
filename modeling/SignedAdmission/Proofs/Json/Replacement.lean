import Mathlib.Data.List.Basic
import SignedAdmission.Proofs.Json.Pointer
import SignedAdmission.Proofs.Lookup

/-! Putting other values into a value, at places where there is something already. What is put
there is found there, and every other place looks as it did. -/
namespace SignedAdmission.Json

/-- Puts another value at a step inside a value, where that step leads to something. -/
def setChild (step : String) (value child : Json) : Json :=
  match value with
  | .object fields => .object (setField step child fields)
  | .array items =>
    match index? step with
    | some index => .array (items.set index child)
    | none => .array items
  | other => other

/-- Puts another value at the end of a path, if there is something. -/
def replaceAt? : List String → Json → Json → Option Json
  | [], _, new => some new
  | step :: path, value, new => do
    let child ← value.child? step
    return value.setChild step (← child.replaceAt? path new)

/-- What a value shows at its own place: a scalar itself, the number of items of an array, the keys
of an object. -/
def outline : Json → Json
  | .array items => .array (items.map fun _ => .null)
  | .object fields => .object (fields.map fun field => (field.1, .null))
  | scalar => scalar

section Fields

variable {key other : String} {value : Json} {fields more : Fields}

theorem lookup_setField :
    (setField key value fields).lookup other =
      if other = key then some value else fields.lookup other := by
  induction fields with
  | nil => rw [setField, lookup_cons_eq_ite]
  | cons field rest ih =>
    obtain ⟨name, found⟩ := field
    rw [setField]
    split
    case isTrue here =>
      subst here
      simp only [lookup_cons_eq_ite]
      split <;> rfl
    case isFalse elsewhere =>
      simp only [lookup_cons_eq_ite, ih]
      grind

/-- Setting a field that is there adds no key. -/
theorem keys_setField (present : (fields.lookup key).isSome) :
    (setField key value fields).map Prod.fst = fields.map Prod.fst := by
  induction fields with
  | nil => simp at present
  | cons field rest ih =>
    obtain ⟨name, found⟩ := field
    rw [setField]
    split
    case isTrue here => rw [List.map_cons, List.map_cons, ← here]
    case isFalse elsewhere =>
      rw [lookup_cons_eq_ite, if_neg (Ne.symm elsewhere)] at present
      rw [List.map_cons, List.map_cons, ih present]

theorem setField_append_of_some (present : (fields.lookup key).isSome) :
    setField key value (fields ++ more) = setField key value fields ++ more := by
  induction fields with
  | nil => simp at present
  | cons field rest ih =>
    obtain ⟨name, found⟩ := field
    rw [List.cons_append, setField, setField]
    split
    case isTrue => rfl
    case isFalse elsewhere =>
      rw [lookup_cons_eq_ite, if_neg (Ne.symm elsewhere)] at present
      rw [ih present, List.cons_append]

theorem setField_append_of_none (absent : fields.lookup key = none) :
    setField key value (fields ++ more) = fields ++ setField key value more := by
  induction fields with
  | nil => rfl
  | cons field rest ih =>
    obtain ⟨name, found⟩ := field
    have elsewhere : name ≠ key := by
      rintro rfl
      simp at absent
    rw [lookup_cons_eq_ite, if_neg elsewhere.symm] at absent
    rw [List.cons_append, setField, if_neg elsewhere, ih absent, List.cons_append]

end Fields

section Children

variable {step other : String} {value child old : Json}

theorem child?_setChild_self (present : value.child? step = some old) :
    (value.setChild step child).child? step = some child := by
  cases value with
  | object fields => simp [setChild, child?, lookup_setField]
  | array items =>
    simp only [child?, Option.bind_eq_bind, Option.bind_eq_some_iff] at present
    obtain ⟨index, spelled, found⟩ := present
    have inside := (List.getElem?_eq_some_iff.mp found).1
    simp [setChild, child?, spelled, inside]
  | null | bool _ | number _ | string _ => simp [child?] at present

theorem child?_setChild_of_ne (h : other ≠ step) :
    (value.setChild step child).child? other = value.child? other := by
  cases value with
  | object fields => simp [setChild, child?, lookup_setField, h]
  | array items =>
    rw [setChild]
    split
    case h_1 index spelled =>
      refine Option.bind_congr fun place found => ?_
      have elsewhere : index ≠ place := by
        rintro rfl
        exact h ((index?_eq_some.mp found).trans (index?_eq_some.mp spelled).symm)
      rw [List.getElem?_set_ne elsewhere]
    case h_2 => rfl
  | null | bool _ | number _ | string _ => rfl

theorem outline_setChild (present : value.child? step = some old) :
    (value.setChild step child).outline = value.outline := by
  cases value with
  | object fields =>
    have keys : (setField step child fields).map Prod.fst = fields.map Prod.fst :=
      keys_setField (Option.isSome_of_eq_some present)
    have blank (fields : Fields) : (fields.map fun field => (field.1, Json.null)) =
        (fields.map Prod.fst).map fun key => (key, .null) := by simp
    rw [setChild, outline, outline, blank, blank, keys]
  | array items =>
    rw [setChild]
    split <;> simp [outline, List.map_set]
  | null | bool _ | number _ | string _ => simp [child?] at present

end Children

section Paths

variable {path other : List String} {value after new : Json}

theorem replaceAt?_cons_eq_some {step : String} :
    value.replaceAt? (step :: path) new = some after ↔
      ∃ child changed, value.child? step = some child ∧
        child.replaceAt? path new = some changed ∧ value.setChild step changed = after := by
  simp only [replaceAt?, Option.bind_eq_bind, Option.bind_eq_some_iff, Option.pure_def,
    Option.some.injEq, exists_and_left]

/-- Something can be replaced exactly if it is there. -/
theorem isSome_replaceAt? (path : List String) (value new : Json) :
    (value.replaceAt? path new).isSome = (value.at? path).isSome := by
  induction path generalizing value with
  | nil => rfl
  | cons step path ih =>
    rw [replaceAt?, at?_cons]
    cases value.child? step with
    | none => rfl
    | some child =>
      rw [Option.bind_some, ← ih child]
      cases replaced : child.replaceAt? path new <;> simp [replaced]

theorem at?_replaceAt?_self (h : value.replaceAt? path new = some after) :
    after.at? path = some new := by
  induction path generalizing value after with
  | nil => exact h.symm
  | cons step path ih =>
    obtain ⟨child, changed, found, replaced, rfl⟩ := replaceAt?_cons_eq_some.mp h
    rw [at?_cons, child?_setChild_self found, Option.bind_some, ih replaced]

/-- Places that are not at or below the end of the path look as they did. -/
theorem outline_replaceAt? (h : value.replaceAt? path new = some after) (apart : ¬ path <+: other) :
    (after.at? other).map outline = (value.at? other).map outline := by
  induction path generalizing value after other with
  | nil => exact absurd List.nil_prefix apart
  | cons step path ih =>
    obtain ⟨child, changed, found, replaced, rfl⟩ := replaceAt?_cons_eq_some.mp h
    cases other with
    | nil => simp [outline_setChild found]
    | cons first rest =>
      rw [at?_cons, at?_cons]
      by_cases same : first = step
      · subst same
        rw [child?_setChild_self found, found, Option.bind_some, Option.bind_some]
        exact ih replaced fun below => apart (List.cons_prefix_cons.mpr ⟨rfl, below⟩)
      · rw [child?_setChild_of_ne same]

end Paths

section Texts

variable {before after : Json} {changes : List (List String × String)}

/-- The texts at the ends of some paths are other ones, and everything else is as it was. -/
structure Retexted (before after : Json) (changes : List (List String × String)) : Prop where
  changed : ∀ change ∈ changes, after.at? change.1 = some (.string change.2)
  kept : ∀ path, path ∉ changes.map Prod.fst →
    (after.at? path).map outline = (before.at? path).map outline

/-- Puts texts at the ends of paths, one after the other. -/
def replaceTexts? (changes : List (List String × String)) (value : Json) : Option Json :=
  changes.foldlM (fun value change => value.replaceAt? change.1 (.string change.2)) value

theorem at?_string_eq_none {path : List String} (below : path ≠ []) (text : String) :
    (Json.string text).at? path = none := by
  cases path with
  | nil => contradiction
  | cons step path => rfl

/-- What looks like a text is one. -/
theorem eq_string_of_outline {found other : Option Json} {text : String}
    (same : found.map outline = other.map outline) (h : other = some (.string text)) :
    found = some (.string text) := by
  subst h
  cases found with
  | none => simp at same
  | some value => cases value <;> simp_all [outline]

/-- What looks like an array has as many items. -/
theorem length_of_outline {found other : Option Json}
    (same : found.map outline = other.map outline) :
    ((found.bind array?).getD []).length = ((other.bind array?).getD []).length := by
  have shown (value : Option Json) : ((value.bind array?).getD []).length =
      (((value.map outline).bind array?).getD []).length := by
    cases value with
    | none => rfl
    | some value => cases value <;> simp [array?, outline]
  rw [shown, same, ← shown]

/-- A text has nothing inside, so that only its own place looks different afterwards. -/
theorem retexted_replaceAt? {path : List String} {old new : String}
    (text : before.at? path = some (.string old))
    (replaced : before.replaceAt? path (.string new) = some after) :
    Retexted before after [(path, new)] where
  changed := by simp [at?_replaceAt?_self replaced]
  kept other elsewhere := by
    by_cases below : path <+: other
    · obtain ⟨rest, rfl⟩ := below
      have deeper : rest ≠ [] := by simpa using elsewhere
      simp [at?_append, at?_replaceAt?_self replaced, text, at?_string_eq_none deeper]
    · exact outline_replaceAt? replaced below

theorem Retexted.cons {middle : Json} {path : List String} {new : String}
    (first : Retexted before middle [(path, new)]) (others : Retexted middle after changes)
    (apart : path ∉ changes.map Prod.fst) : Retexted before after ((path, new) :: changes) where
  changed := by
    refine List.forall_mem_cons.mpr ⟨?_, others.changed⟩
    exact eq_string_of_outline (others.kept path apart) (first.changed _ List.mem_cons_self)
  kept other elsewhere := by
    simp only [List.map_cons, List.mem_cons, not_or] at elsewhere
    rw [others.kept other elsewhere.2, first.kept other (by simpa using elsewhere.1)]

/-- Texts that are there can be replaced one after the other. -/
theorem exists_retexted (distinct : (changes.map Prod.fst).Nodup)
    (texts : ∀ path ∈ changes.map Prod.fst, ∃ old, before.at? path = some (.string old)) :
    ∃ after, replaceTexts? changes before = some after ∧ Retexted before after changes := by
  induction changes generalizing before with
  | nil => exact ⟨before, rfl, by simp, fun _ _ => rfl⟩
  | cons change changes ih =>
    obtain ⟨path, new⟩ := change
    rw [List.map_cons] at distinct texts
    obtain ⟨apart, distinct⟩ := List.nodup_cons.mp distinct
    obtain ⟨⟨old, text⟩, texts⟩ := List.forall_mem_cons.mp texts
    obtain ⟨middle, replaced⟩ : ∃ middle, before.replaceAt? path (.string new) = some middle :=
      Option.isSome_iff_exists.mp (by simp [isSome_replaceAt?, text])
    have first := retexted_replaceAt? text replaced
    have still : ∀ path ∈ changes.map Prod.fst, ∃ old, middle.at? path = some (.string old) := by
      intro other member
      obtain ⟨old, text⟩ := texts other member
      have elsewhere : other ≠ path := ne_of_mem_of_not_mem member apart
      exact ⟨old, eq_string_of_outline (first.kept other (by simpa using elsewhere)) text⟩
    obtain ⟨after, rest, others⟩ := ih distinct still
    refine ⟨after, ?_, first.cons others apart⟩
    rw [replaceTexts?, List.foldlM_cons, replaced]
    exact rest

end Texts

end SignedAdmission.Json
