import SignedAdmission.Proofs.Json.Reading
import SignedAdmission.Proofs.Json.Record
import SignedAdmission.Proofs.TrustData.Vouching

/-! What signatures and hashes bind. The bytes that signatures are made of determine the payload of a
document, and with it everything that is read from there; the bytes that are hashed determine the
whole document. -/
namespace SignedAdmission

open Checks

namespace Json

/-- The slots of a record in canonical form are in canonical form. -/
theorem canonical_slots {record : String} {rules : List FieldRule} {value : Json} {slots : Slots}
    (hv : value.Canonical) (h : Record.slots record rules value = .ok slots) :
    ∀ slot ∈ slots, slot.2.Canonical := by
  intro slot member
  cases value with
  | object fields =>
    obtain absent | ⟨key, field⟩ := Record.mem_of_visit h member
    · simp at absent
    · exact hv.of_fields (key, slot.2) field
  | array items => exact hv.of_items _ (Record.mem_of_assign h member)
  | null | bool _ | number _ | string _ => simp [Record.slots] at h

/-- A list of values as they are is read from an array of just these. -/
theorem Decoder.list_any {value : Json} {items : List Json}
    (h : Decoder.list Decoder.any value = .ok items) : value = .array items := by
  cases value with
  | array found =>
    have same : List.Forall₂ (· = ·) found items :=
      (mapM_eq_ok.mp h).imp fun _ _ read => Except.ok.inj read
    rw [List.forall₂_eq_eq_eq] at same
    rw [same]
  | null | bool _ | number _ | string _ | object _ => simp [Decoder.list] at h

end Json

namespace Document

variable {role : Role} {value : Json} {document other : Document}

/-- Payload and signatures of an envelope in canonical form are in canonical form. -/
theorem canonical_decodeEnvelope {signed : Json} {signatures : List Json}
    (hv : value.Canonical) (h : decodeEnvelope value = .ok (signed, signatures)) :
    signed.Canonical ∧ ∀ signature ∈ signatures, signature.Canonical := by
  simp only [decodeEnvelope, bind_eq_ok, pure_eq_ok, Prod.mk.injEq] at h
  obtain ⟨slots, visited, payload, payloadRead, listed, listedRead, rfl, rfl⟩ := h
  have all := Json.canonical_slots hv visited
  constructor
  · obtain ⟨found, member, same⟩ | absent | absent := Json.RecordField.get_cases payloadRead
    · obtain rfl := Except.ok.inj same
      exact all _ member
    · simp at absent
    · simp at absent
  · obtain ⟨found, member, decoded⟩ | absent | absent := Json.RecordField.get_cases listedRead
    · have items := all _ member
      rw [Json.Decoder.list_any decoded] at items
      exact items.of_items
    · simp at absent
    · simp at absent

/-- Payload and signatures are those of the envelope, and the expiry is the one of the payload. -/
theorem parts_of_ofJson (h : ofJson role value = .ok document) :
    decodeEnvelope value = .ok (document.signed, document.signatures) ∧
      ∃ text, decodeExpiry document.signed = .ok text ∧
        Instant.ofText? text = some document.expires := by
  simp only [ofJson, bind_eq_ok, mapError_eq_ok] at h
  obtain ⟨⟨signed, signatures⟩, envelope, entries, -, h⟩ := h
  split at h
  · simp at h
  · simp only [bind_eq_ok, mapError_eq_ok] at h
    obtain ⟨text, decoded, h⟩ := h
    split at h
    case h_1 expires read =>
      simp only [bind_eq_ok, mapError_eq_ok, pure_eq_ok] at h
      obtain ⟨_, rfl, body, -, rfl⟩ := h
      exact ⟨envelope, text, decoded, read⟩
    case h_2 => simp at h

/-- Documents that are read from bytes have values in canonical form. -/
theorem canonical_ofBytes {bytes : List UInt8} (h : ofBytes role bytes = .ok document) :
    ∃ value, ofJson role value = .ok document ∧ document.signed.Canonical ∧
      ∀ signature ∈ document.signatures, signature.Canonical := by
  rw [ofBytes] at h
  split at h
  case h_1 value read =>
    exact ⟨value, h,
      canonical_decodeEnvelope (Json.canonical_ofBytes? read) (parts_of_ofJson h).1⟩
  case h_2 => simp at h

/-- What is read from a payload depends on the role and the payload only. -/
theorem eq_of_signed {otherValue : Json} (h : ofJson role value = .ok document)
    (ho : ofJson role otherValue = .ok other) (same : document.signed = other.signed) :
    document.expires = other.expires ∧ document.body = other.body := by
  constructor
  · obtain ⟨-, text, decoded, read⟩ := parts_of_ofJson h
    obtain ⟨-, otherText, otherDecoded, otherRead⟩ := parts_of_ofJson ho
    rw [same, otherDecoded] at decoded
    obtain rfl := Except.ok.inj decoded
    exact Option.some.inj (read.symm.trans otherRead)
  · have body := (ofJson_wellFormed h).body_eq
    rw [same, (ofJson_wellFormed ho).body_eq] at body
    exact (Except.ok.inj body).symm

/-- Documents of one role with the same payload and the same signatures are the same. -/
theorem eq_of_parts {otherValue : Json} (h : ofJson role value = .ok document)
    (ho : ofJson role otherValue = .ok other) (signed : document.signed = other.signed)
    (signatures : document.signatures = other.signatures) : document = other := by
  have formed := ofJson_wellFormed h
  have otherFormed := ofJson_wellFormed ho
  obtain ⟨expires, body⟩ := eq_of_signed h ho signed
  have entries := formed.entries_eq
  rw [signatures, otherFormed.entries_eq] at entries
  have role := formed.role_eq.trans otherFormed.role_eq.symm
  cases document
  cases other
  simp_all

section Bytes

variable {bytes otherBytes : List UInt8}

theorem signed_of_message (h : ofBytes role bytes = .ok document)
    (ho : ofBytes role otherBytes = .ok other) (same : document.message = other.message) :
    document.signed = other.signed := by
  obtain ⟨-, -, canonical, -⟩ := canonical_ofBytes h
  obtain ⟨-, -, otherCanonical, -⟩ := canonical_ofBytes ho
  exact Json.bytes_injective canonical otherCanonical same

theorem eq_of_content (h : ofBytes role bytes = .ok document)
    (ho : ofBytes role otherBytes = .ok other) (same : document.content = other.content) :
    document = other := by
  obtain ⟨value, read, signed, signatures⟩ := canonical_ofBytes h
  obtain ⟨otherValue, otherRead, otherSigned, otherSignatures⟩ := canonical_ofBytes ho
  have envelope {signed : Json} {signatures : List Json} (hs : signed.Canonical)
      (hl : ∀ signature ∈ signatures, signature.Canonical) :
      (Json.object [("signed", signed), ("signatures", .array signatures)]).Canonical :=
    .object (by simpa using ⟨hs, .array hl⟩)
  have values := Json.bytes_injective (envelope signed signatures)
    (envelope otherSigned otherSignatures) same
  simp only [Json.object.injEq, List.cons.injEq, Prod.mk.injEq, true_and, and_true,
    Json.array.injEq] at values
  exact eq_of_parts read otherRead values.1 values.2

/-- Equal messages are made of equal payloads, from which the same is read, and equal contents are
those of equal documents. Two documents that have one recorded hash are the same, or their contents
are a collision. -/
theorem bytes_determine (h : ofBytes role bytes = .ok document)
    (ho : ofBytes role otherBytes = .ok other) :
    (document.message = other.message →
      document.signed = other.signed ∧ document.expires = other.expires ∧
        document.keys = other.keys ∧ document.hashes = other.hashes ∧
        document.targets = other.targets ∧ document.delegations = other.delegations) ∧
      (document.content = other.content →
        document.signed = other.signed ∧ document.signatures = other.signatures ∧
          document = other) ∧
      ∀ suite stored, document.HasContent suite stored → other.HasContent suite stored →
        document = other ∨
          document.content ≠ other.content ∧
            document.content.length = other.content.length ∧
            suite.hash document.content = suite.hash other.content := by
  refine ⟨fun same => ?_, fun same => ?_, fun suite stored recorded otherRecorded => ?_⟩
  · have signed := signed_of_message h ho same
    obtain ⟨_, read, -⟩ := canonical_ofBytes h
    obtain ⟨_, otherRead, -⟩ := canonical_ofBytes ho
    obtain ⟨expires, body⟩ := eq_of_signed read otherRead signed
    refine ⟨signed, expires, ?_, ?_, ?_, ?_⟩
    · rw [keys, keys, hasDelegations, hasDelegations, body]
    · rw [hashes, hashes, body]
    · rw [targets, targets, body]
    · rw [delegations, delegations, body]
  · have whole := eq_of_content h ho same
    exact ⟨congrArg signed whole, congrArg signatures whole, whole⟩
  · by_cases same : document.content = other.content
    · exact .inl (eq_of_content h ho same)
    · refine .inr ⟨same, recorded.2.trans otherRecorded.2.symm, Option.some.inj ?_⟩
      rw [← recorded.1, ← otherRecorded.1]

section Sample

/-- A snapshot in compact form. -/
def compactSample : String :=
  "\x7b\"signatures\":[\x7b\"keyid\":\"\",\"sig\":\"\"\x7d]," ++
    "\"signed\":\x7b\"expires\":\"2099-01-01T00:00:00Z\",\"meta\":\x7b\x7d,\"n\":1.5\x7d\x7d"

/-- The same with a blank, an escape that is not needed and a number that is written differently. -/
def looseSample : String :=
  "\x7b\"signatures\":[\x7b\"keyid\":\"\",\"sig\":\"\"\x7d]," ++
    "\"signed\":\x7b\"expires\":\"2099-01-01T00:00:00Z\", \"m\\u0065ta\":\x7b\x7d,\"n\":15e-1\x7d\x7d"

theorem bytes_determine_of_sample :
    compactSample ≠ looseSample ∧
      ∃ document other, ofBytes .snapshot compactSample.toUTF8.toList = .ok document ∧
        ofBytes .snapshot looseSample.toUTF8.toList = .ok other ∧
        document.message = other.message ∧ document.content = other.content ∧
        document.signed = other.signed ∧ document = other := by
  have accepted : (ofBytes .snapshot compactSample.toUTF8.toList).toOption.isSome = true := by
    rw [ofBytes, Json.ofBytes?_toUTF8]
    decide +kernel
  obtain ⟨document, found⟩ := Option.isSome_iff_exists.mp accepted
  have contents : (ofBytes .snapshot compactSample.toUTF8.toList).toOption.map content =
      (ofBytes .snapshot looseSample.toUTF8.toList).toOption.map content := by
    rw [ofBytes, ofBytes, Json.ofBytes?_toUTF8, Json.ofBytes?_toUTF8]
    decide +kernel
  rw [found, Option.map_some] at contents
  obtain ⟨other, looseFound, sameContent⟩ := Option.map_eq_some_iff.mp contents.symm
  have read := toOption_eq_some.mp found
  have looseRead := toOption_eq_some.mp looseFound
  obtain ⟨signed, whole, -⟩ := bytes_determine read looseRead
  obtain ⟨-, -, same⟩ := whole sameContent.symm
  have sameMessage : document.message = other.message := congrArg message same
  exact ⟨by decide, document, other, read, looseRead, sameMessage, sameContent.symm,
    (signed sameMessage).1, same⟩

end Sample

end Bytes

end Document

end SignedAdmission
