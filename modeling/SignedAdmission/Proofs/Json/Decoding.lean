import SignedAdmission.Json.Decoder
import SignedAdmission.Proofs.Checks

/-! Records and dictionaries that are written the way they are declared are read back. -/
namespace SignedAdmission.Json

open Checks

@[simp]
theorem Decoder.string_string (s : String) : Decoder.string (.string s) = .ok s := rfl

@[simp]
theorem Decoder.unsigned_ofNat (n : Nat) : Decoder.unsigned (.ofNat n) = .ok n := by
  simp [unsigned, ofNat]

/-- An object whose keys are in order is a dictionary with its entries in the same order. -/
theorem Decoder.dictionary_of_sorted {α : Type} {decode : Decoder α} {fields : Fields}
    {entries : List (String × α)}
    (read : List.Forall₂ (fun field entry => field.1 = entry.1 ∧ decode field.2 = .ok entry.2)
      fields entries)
    (sorted : entries.Pairwise fun a b => a.1 ≤ b.1) :
    dictionary decode (.object fields) = .ok entries := by
  simp only [dictionary, bind_eq_ok, pure_eq_ok]
  refine ⟨entries, mapM_eq_ok.2 (read.imp fun field entry decoded => ?_),
    List.mergeSort_of_pairwise (sorted.imp fun le => by simpa using le)⟩
  simp only [bind_eq_ok, pure_eq_ok]
  exact ⟨entry.2, decoded.2, by rw [decoded.1]⟩

namespace Record

/-- Fields that no rule is about are as good as left out. -/
theorem visit_filter (rules : List FieldRule) (fields : Fields) (slots : Slots) :
    visit rules (fields.filter fun field => (rules.find? (·.names.contains field.1)).isSome) slots =
      visit rules fields slots := by
  induction fields generalizing slots with
  | nil => rfl
  | cons field rest ih =>
    obtain ⟨key, value⟩ := field
    rw [visit]
    cases known : rules.find? (·.names.contains key) with
    | none =>
      rw [List.filter_cons_of_neg (by simp only [known]; simp), ih]
    | some rule =>
      rw [List.filter_cons_of_pos (by simp only [known]; rfl), visit]
      simp only [known, ih]

/-- Fields that no rule is about change nothing. -/
theorem visit_unknown {rules : List FieldRule} {fields : Fields} {slots : Slots}
    (unknown : ∀ field ∈ fields, rules.find? (·.names.contains field.1) = none) :
    visit rules fields slots = .ok slots := by
  have none_known : fields.filter (fun field => (rules.find? (·.names.contains field.1)).isSome) =
      [] := by
    rw [List.filter_eq_nil_iff]
    intro field member
    simp only [unknown field member]
    simp
  rw [← visit_filter, none_known, visit]

end Record

end SignedAdmission.Json
