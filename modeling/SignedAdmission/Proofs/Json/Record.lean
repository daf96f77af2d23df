import SignedAdmission.Proofs.Json.Decoding
import SignedAdmission.Proofs.Json.Replacement

/-! The slots of records: each holds the value of its field, and what one field holds has no
influence on the others. -/
namespace SignedAdmission.Json

open Checks

namespace Record

section Visits

variable {rules : List FieldRule} {name : String} {value : Json} {fields : Fields}
  {slots found : Slots}

/-- No field has a second name. -/
def Plain (rules : List FieldRule) : Prop :=
  ∀ rule ∈ rules, rule.names = [rule.name]

theorem Plain.name_eq (plain : Plain rules) {key : String} {rule : FieldRule}
    (h : rules.find? (·.names.contains key) = some rule) : rule.name = key := by
  have named := List.find?_some h
  rw [plain rule (List.mem_of_find?_eq_some h)] at named
  simpa [eq_comm] using named

theorem Plain.ne_of_unknown (plain : Plain rules) {key : String}
    (declared : name ∈ rules.map (·.name))
    (h : rules.find? (·.names.contains key) = none) : name ≠ key := by
  rintro rfl
  obtain ⟨rule, member, rfl⟩ := List.mem_map.mp declared
  have unnamed := List.find?_eq_none.mp h rule member
  simp [plain rule member] at unnamed

/-- The slot of a declared field holds the field's value. -/
theorem lookup_visit (plain : Plain rules) (declared : name ∈ rules.map (·.name))
    (h : visit rules fields slots = .ok found) :
    found.lookup name = (slots.lookup name).or (fields.lookup name) := by
  induction fields generalizing slots with
  | nil =>
    cases h
    simp
  | cons field rest ih =>
    obtain ⟨key, value⟩ := field
    rw [visit] at h
    cases known : rules.find? (·.names.contains key) with
    | none =>
      rw [known] at h
      rw [ih h, lookup_cons_eq_ite, if_neg (plain.ne_of_unknown declared known)]
    | some rule =>
      obtain rfl := plain.name_eq known
      rw [known] at h
      simp only at h
      split at h
      case isTrue => simp at h
      case isFalse fresh =>
        simp only [bind_eq_ok, exists_unit_eq_ok] at h
        rw [ih h.2, List.lookup_append, lookup_cons_eq_ite, lookup_cons_eq_ite]
        by_cases same : name = rule.name
        · subst same
          simp_all
        · simp [same]

/-- What is in a slot already has no influence on the fields that are still to be visited. -/
theorem visit_setSlot (plain : Plain rules) (present : (slots.lookup name).isSome)
    (h : visit rules fields slots = .ok found) :
    visit rules fields (setField name value slots) = .ok (setField name value found) := by
  induction fields generalizing slots with
  | nil =>
    cases h
    rfl
  | cons field rest ih =>
    obtain ⟨key, other⟩ := field
    rw [visit] at h ⊢
    cases known : rules.find? (·.names.contains key) with
    | none =>
      rw [known] at h
      exact ih present h
    | some rule =>
      obtain rfl := plain.name_eq known
      rw [known] at h
      simp only at h ⊢
      split at h
      case isTrue => simp at h
      case isFalse fresh =>
        simp only [bind_eq_ok, exists_unit_eq_ok] at h
        have elsewhere : rule.name ≠ name := by
          rintro rfl
          exact fresh present
        have later := ih (by simp [List.lookup_append, Option.isSome_or, present]) h.2
        rw [lookup_setField, if_neg elsewhere, if_neg fresh]
        simp only [bind_eq_ok, exists_unit_eq_ok]
        exact ⟨h.1, setField_append_of_some present ▸ later⟩

/-- A field whose values are not looked at may have another one. -/
theorem visit_setField (plain : Plain rules) (declared : name ∈ rules.map (·.name))
    (unchecked : ∀ rule ∈ rules, rule.name = name → rule.check value = .ok ())
    (present : (fields.lookup name).isSome) (absent : slots.lookup name = none)
    (h : visit rules fields slots = .ok found) :
    visit rules (setField name value fields) slots = .ok (setField name value found) := by
  induction fields generalizing slots with
  | nil => simp at present
  | cons field rest ih =>
    obtain ⟨key, old⟩ := field
    rw [visit] at h
    rw [setField]
    split
    case isTrue same =>
      obtain rfl : key = name := same
      rw [visit]
      cases known : rules.find? (·.names.contains key) with
      | none => exact absurd rfl (plain.ne_of_unknown declared known)
      | some rule =>
        obtain rfl := plain.name_eq known
        rw [known] at h
        simp only [absent] at h ⊢
        simp only [Option.isSome_none, Bool.false_eq_true, if_false, bind_eq_ok,
          exists_unit_eq_ok] at h ⊢
        refine ⟨unchecked rule (List.mem_of_find?_eq_some known) rfl, ?_⟩
        have filled : ((slots ++ [(rule.name, old)]).lookup rule.name).isSome := by
          simp [List.lookup_append, absent]
        have later : visit rules rest (setField rule.name value (slots ++ [(rule.name, old)])) =
            .ok (setField rule.name value found) := visit_setSlot plain filled h.2
        rw [setField_append_of_none absent, setField, if_pos rfl] at later
        exact later
    case isFalse elsewhere =>
      rw [lookup_cons_eq_ite, if_neg (Ne.symm elsewhere)] at present
      rw [visit]
      cases known : rules.find? (·.names.contains key) with
      | none =>
        rw [known] at h
        exact ih present absent h
      | some rule =>
        obtain rfl := plain.name_eq known
        rw [known] at h
        simp only at h ⊢
        split at h
        case isTrue => simp at h
        case isFalse fresh =>
          simp only [bind_eq_ok, exists_unit_eq_ok] at h
          rw [if_neg fresh]
          simp only [bind_eq_ok, exists_unit_eq_ok]
          refine ⟨h.1, ih present ?_ h.2⟩
          simp [List.lookup_append, absent, lookup_cons_eq_ite, Ne.symm elsewhere]

/-- A slot that is new after a visit holds the value of a field. -/
theorem mem_of_visit (h : visit rules fields slots = .ok found) {slot : String × Json}
    (member : slot ∈ found) : slot ∈ slots ∨ ∃ key, (key, slot.2) ∈ fields := by
  induction fields generalizing slots with
  | nil =>
    rw [visit, Except.ok.injEq] at h
    exact .inl (h ▸ member)
  | cons field rest ih =>
    obtain ⟨key, value⟩ := field
    rw [visit] at h
    split at h
    case h_1 =>
      obtain old | ⟨other, new⟩ := ih h
      · exact .inl old
      · exact .inr ⟨other, List.mem_cons_of_mem _ new⟩
    case h_2 rule known =>
      split at h
      case isTrue => simp at h
      case isFalse =>
        simp only [bind_eq_ok, exists_unit_eq_ok] at h
        obtain old | ⟨other, new⟩ := ih h.2
        · obtain old | new := List.mem_append.mp old
          · exact .inl old
          · rw [List.mem_singleton.mp new]
            exact .inr ⟨key, List.mem_cons_self⟩
        · exact .inr ⟨other, List.mem_cons_of_mem _ new⟩

/-- A slot of an array holds one of the items. -/
theorem mem_of_assign {record : String} {count size index : Nat} {items : List Json}
    (h : assign record count size index rules items = .ok found) {slot : String × Json}
    (member : slot ∈ found) : slot.2 ∈ items := by
  induction rules generalizing index items found with
  | nil =>
    cases items with
    | nil =>
      rw [assign, Except.ok.injEq] at h
      simp [← h] at member
    | cons => simp [assign] at h
  | cons rule rules ih =>
    cases items with
    | nil =>
      rw [assign] at h
      split at h
      case isTrue => exact ih h member
      case isFalse => simp at h
    | cons item items =>
      simp only [assign, bind_eq_ok, exists_unit_eq_ok, pure_eq_ok] at h
      obtain ⟨-, later, assigned, rfl⟩ := h
      obtain rfl | member := List.mem_cons.mp member
      · exact List.mem_cons_self
      · exact List.mem_cons_of_mem _ (ih assigned member)

end Visits
end Record

/-- A field that is read holds what the value of its slot decodes to, or its default. -/
theorem RecordField.get_cases {α : Type} {field : RecordField α} {slots : Slots} {content : α}
    (h : field.get slots = .ok content) :
    (∃ value, (field.name, value) ∈ slots ∧ field.decode value = .ok content) ∨
      field.absence = .inObjects content ∨ field.absence = .anywhere content := by
  rw [RecordField.get] at h
  split at h
  case h_1 value found =>
    obtain ⟨before, after, rfl, -⟩ := List.lookup_eq_some_iff.mp found
    exact .inl ⟨value, by simp, h⟩
  case h_2 =>
    split at h
    case h_1 => simp at h
    case h_2 value absence => exact .inr (.inl (by rw [absence, Except.ok.inj h]))
    case h_3 value absence => exact .inr (.inr (by rw [absence, Except.ok.inj h]))

/-- A field that may not be left out holds what the value of its slot decodes to. -/
theorem RecordField.get_eq_ok_of_refused {α : Type} {field : RecordField α} {slots : Slots}
    {content : α} (refused : field.absence = .refused) :
    field.get slots = .ok content ↔
      ∃ value, slots.lookup field.name = some value ∧ field.decode value = .ok content := by
  rw [get, refused]
  cases slots.lookup field.name <;> simp

/-- A field that is read from an object and may not be left out is a field of that object. -/
theorem RecordField.exists_of_get {α : Type} {field : RecordField α} {rules : List FieldRule}
    {record : String} {fields : Fields} {slots : Slots} {content : α} (plain : Record.Plain rules)
    (declared : field.name ∈ rules.map (·.name)) (refused : field.absence = .refused)
    (visited : Record.slots record rules (.object fields) = .ok slots)
    (read : field.get slots = .ok content) :
    ∃ value, fields.lookup field.name = some value ∧ field.decode value = .ok content := by
  have looked : slots.lookup field.name = fields.lookup field.name :=
    Record.lookup_visit plain declared visited
  rw [← looked]
  exact (get_eq_ok_of_refused refused).mp read

theorem RecordField.get_setField {α : Type} {field : RecordField α} {key : String} {value : Json}
    {slots : Slots} (h : field.name ≠ key) :
    field.get (setField key value slots) = field.get slots := by
  rw [get, get, lookup_setField, if_neg h]

end SignedAdmission.Json
