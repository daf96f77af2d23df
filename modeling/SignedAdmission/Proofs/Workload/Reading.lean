import SignedAdmission.Proofs.Json.Record
import SignedAdmission.Workload.Object

/-! What a workload takes from the object that it is read from. Its spec may be exchanged without
any other effect. -/
namespace SignedAdmission.Workload

open Checks Json

section Parts

def kindField : RecordField String := { name := "kind", decode := Decoder.string }

def apiVersionField : RecordField String := { name := "apiVersion", decode := Decoder.string }

def metadataField : RecordField Metadata :=
  { name := "metadata", decode := Metadata.decode, absence := .anywhere .empty }

def specField : RecordField Json :=
  { name := "spec", decode := Decoder.any, absence := .anywhere .null }

/-- The fields of an object that are read. -/
def rules : List FieldRule :=
  [kindField.rule, apiVersionField.rule, metadataField.rule, specField.rule]

/-- A workload is put together from the fields of an object, and is of a supported version. -/
structure ReadFrom (slots : Slots) (namespaceName : String) (workload : Workload) : Prop where
  kind : ∃ text, kindField.get slots = .ok text ∧ WorkloadKind.ofText? text = some workload.kind
  apiVersion : apiVersionField.get slots = .ok workload.apiVersion
  supported : workload.kind.supports workload.apiVersion = true
  metadata : ∃ metadata, metadataField.get slots = .ok metadata ∧
    workload.name = metadata.shownName ∧ workload.uid = metadata.uid ∧
    workload.owners = metadata.owners
  spec : specField.get slots = .ok workload.spec
  namespaceName : workload.namespaceName = namespaceName

end Parts

variable {fields : Fields} {namespaceName : String} {workload : Workload}

theorem plain_rules : Record.Plain rules := by
  simp [Record.Plain, rules, RecordField.rule, kindField, apiVersionField, metadataField, specField]

theorem ofJson_eq_ok {value : Json} :
    ofJson value namespaceName = .ok workload ↔
      ∃ slots, Record.slots "RawObject" rules value = .ok slots ∧
        ReadFrom slots namespaceName workload := by
  simp only [Workload.ofJson, bind_eq_ok, mapError_eq_ok]
  constructor
  · rintro ⟨parts, ⟨slots, visited, kind, kindRead, version, versionRead, metadata, metadataRead,
      spec, specRead, same⟩, built⟩
    obtain rfl := pure_eq_ok.mp same
    simp only at built
    split at built
    case h_1 => simp at built
    case h_2 known =>
      split at built
      case isTrue => simp only [bind_eq_ok, throw_ne_ok, false_and, exists_false] at built
      case isFalse supported =>
        obtain rfl := pure_eq_ok.mp built
        exact ⟨slots, visited, ⟨kind, kindRead, known⟩, versionRead, by simpa using supported,
          ⟨metadata, metadataRead, rfl, rfl, rfl⟩, specRead, rfl⟩
  · rintro ⟨slots, visited, read⟩
    obtain ⟨kind, kindRead, known⟩ := read.kind
    obtain ⟨metadata, metadataRead, name, uid, owners⟩ := read.metadata
    refine ⟨(kind, workload.apiVersion, metadata, workload.spec), ⟨slots, visited, _, kindRead, _,
      read.apiVersion, _, metadataRead, _, read.spec, rfl⟩, ?_⟩
    simp only [known, read.supported]
    simp [← name, ← uid, ← owners, ← read.namespaceName]

theorem spec_of_ofJson (h : ofJson (.object fields) namespaceName = .ok workload) :
    workload.spec = (fields.lookup "spec").getD .null := by
  obtain ⟨slots, visited, read⟩ := ofJson_eq_ok.mp h
  have looked : slots.lookup "spec" = fields.lookup "spec" :=
    Record.lookup_visit plain_rules (by simp [rules, RecordField.rule, specField]) visited
  have found := read.spec
  rw [RecordField.get] at found
  simp only [specField, looked] at found
  cases present : fields.lookup "spec" <;> simp_all [Decoder.any]

/-- Below the spec, a workload shows what its object shows. -/
theorem at?_object (h : ofJson (.object fields) namespaceName = .ok workload) {path : List String}
    (below : path ≠ []) : (Json.object fields).at? ("spec" :: path) = workload.spec.at? path := by
  rw [at?_cons, child?, spec_of_ofJson h]
  cases fields.lookup "spec" with
  | some spec => rfl
  | none =>
    cases path with
    | nil => contradiction
    | cons step path => rfl

theorem ofJson_setSpec (h : ofJson (.object fields) namespaceName = .ok workload)
    (present : (fields.lookup "spec").isSome) (spec : Json) :
    ofJson (.object (setField "spec" spec fields)) namespaceName =
      .ok { workload with spec := spec } := by
  obtain ⟨slots, visited, read⟩ := ofJson_eq_ok.mp h
  refine ofJson_eq_ok.mpr ⟨setField "spec" spec slots, ?_, ?_⟩
  · refine Record.visit_setField plain_rules ?_ ?_ present rfl visited
    · simp [rules, RecordField.rule, specField]
    · simp [rules, RecordField.rule, kindField, apiVersionField, metadataField, specField,
        Decoder.any]
  · have kept {α : Type} (field : RecordField α) (other : field.name ≠ "spec") :
        field.get (setField "spec" spec slots) = field.get slots := RecordField.get_setField other
    refine { read with kind := ?_, apiVersion := ?_, metadata := ?_, spec := ?_ }
    · rw [kept kindField (by decide)]
      exact read.kind
    · rw [kept apiVersionField (by decide)]
      exact read.apiVersion
    · rw [kept metadataField (by decide)]
      exact read.metadata
    · simp [RecordField.get, specField, lookup_setField, Decoder.any]

end SignedAdmission.Workload
