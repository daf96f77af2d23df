import SignedAdmission.Proofs.TrustData.Keyring
import SignedAdmission.TrustData.Validation

/-! What the checks of a document establish about it: who signed it, that it has not expired, and
that another document records it. -/
namespace SignedAdmission

open Checks

/-- The bodies that documents of a role have. -/
inductive Body.Fits : Role → Body → Prop
  | root (keys) : Fits .root (.root keys)
  | snapshot (entries) : Fits .snapshot (.listing entries)
  | timestamp (entries) : Fits .timestamp (.listing entries)
  | targets (targets delegations) : Fits .targets (.targets targets delegations)
  | delegation (name targets delegations) :
    Fits (.delegation name) (.targets targets delegations)

theorem Body.decode_fits {role : Role} {signed : Json} {body : Body}
    (h : Body.decode role signed = .ok body) : body.Fits role := by
  cases role <;>
    simp only [Body.decode, decodeRoot, decodeListing, decodeTargets, bind_eq_ok,
      pure_eq_ok] at h
  case root =>
    obtain ⟨-, -, keys, -, rfl⟩ := h
    exact .root keys
  case snapshot =>
    obtain ⟨-, -, entries, -, rfl⟩ := h
    exact .snapshot entries
  case timestamp =>
    obtain ⟨-, -, entries, -, rfl⟩ := h
    exact .timestamp entries
  case targets =>
    obtain ⟨-, -, targets, -, delegations, -, rfl⟩ := h
    exact .targets targets delegations
  case delegation name =>
    obtain ⟨-, -, targets, -, delegations, -, rfl⟩ := h
    exact .delegation name targets delegations

namespace Document

/-- A document of a role with the body and the signatures that its own payload and envelope hold. -/
structure WellFormed (role : Role) (document : Document) : Prop where
  role_eq : document.role = role
  body_eq : Body.decode role document.signed = .ok document.body
  entries_eq : document.signatures.mapM SignatureEntry.decode = .ok document.entries
  signed : document.entries ≠ []

theorem WellFormed.fits {role : Role} {document : Document} (h : document.WellFormed role) :
    document.body.Fits role :=
  Body.decode_fits h.body_eq

theorem ofJson_wellFormed {role : Role} {value : Json} {document : Document}
    (h : ofJson role value = .ok document) : document.WellFormed role := by
  simp only [ofJson, bind_eq_ok, mapError_eq_ok] at h
  obtain ⟨⟨signed, signatures⟩, -, entries, read, h⟩ := h
  split at h
  · simp at h
  · rename_i some_entry
    simp only [bind_eq_ok, mapError_eq_ok] at h
    obtain ⟨expiry, -, h⟩ := h
    split at h
    · simp only [bind_eq_ok, mapError_eq_ok, pure_eq_ok] at h
      obtain ⟨expires, -, body, decoded, rfl⟩ := h
      exact ⟨rfl, decoded, read, by simpa using some_entry⟩
    · simp at h

section Signatures

variable {suite : Suite} {store : KeyStore} {document : Document} {entry : SignatureEntry}

/-- A signature of the document verifies under a key. -/
def VerifiesUnder (suite : Suite) (document : Document) (key : TrustRoot)
    (entry : SignatureEntry) : Prop :=
  ∃ signature, Base64.decode? entry.signature.toList = some signature ∧
    suite.verify key document.message signature = true

/-- Every signature names a key of the ring, and verifies under that one. -/
def SignedUnder (suite : Suite) (ring : Keyring) (document : Document) : Prop :=
  ∀ entry ∈ document.entries, ∃ key, ring entry.keyId = some key ∧
    document.VerifiesUnder suite key entry

theorem checkSignature_eq_ok :
    checkSignature suite store document entry = .ok () ↔
      ∃ key, store.ring (signingKeyId document.role entry) = some key ∧
        document.VerifiesUnder suite key entry := by
  rw [checkSignature, bind_eq_ok]
  refine exists_congr fun key => ?_
  rw [KeyStore.key_eq_ok]
  refine and_congr_right fun _ => ?_
  rw [VerifiesUnder]
  cases Base64.decode? entry.signature.toList with
  | none => simp
  | some signature => cases verdict : suite.verify key document.message signature <;> simp [verdict]

theorem validateSignature_eq_ok (h : document.role ≠ .root) :
    document.validateSignature suite store = .ok () ↔ document.SignedUnder suite store.ring := by
  have named (entry : SignatureEntry) : signingKeyId document.role entry = entry.keyId := by
    rw [signingKeyId]
    exact h
  rw [validateSignature, forM_eq_ok]
  simp only [checkSignature_eq_ok, named]
  rfl

/-- The root document is held against the pinned key alone. -/
theorem validateSignature_root_eq_ok {root : TrustRoot} (h : document.role = .root) :
    document.validateSignature suite (.pinned root) = .ok () ↔
      ∀ entry ∈ document.entries, document.VerifiesUnder suite root entry := by
  rw [validateSignature, forM_eq_ok]
  simp [checkSignature_eq_ok, h, signingKeyId, KeyStore.ring_pinned, Keyring.pinned]

end Signatures

section Records

variable {suite : Suite} {store : KeyStore} {document : Document} {now : Instant}

def Fresh (now : Instant) (document : Document) : Prop :=
  now.nanoseconds ≤ document.expires.nanoseconds

theorem validateExpiry_eq_ok :
    document.validateExpiry now = .ok () ↔ document.Fresh now := by
  rw [validateExpiry, Instant.isBefore, Fresh]
  split <;> simp_all

/-- The content has the stored hash and length. -/
def HasContent (suite : Suite) (document : Document) (stored : String × Nat) : Prop :=
  Base64.decode? stored.1.toList = some (suite.hash document.content) ∧
    document.content.length = stored.2

/-- What a listing says under a name is the hash and the length of the document. -/
def RecordedAs (suite : Suite) (document listing : Document) (name : String) : Prop :=
  ∃ entry, listing.hashes.lookup name = some entry ∧ document.HasContent suite entry.stored

theorem validateHash_eq_ok (h : document.role ≠ .timestamp) :
    document.validateHash suite store = .ok () ↔
      ∃ stored, store.hashes.lookup document.role.text = some stored ∧
        document.HasContent suite stored := by
  rw [validateHash, if_neg h, bind_eq_ok]
  refine exists_congr fun ⟨text, length⟩ => ?_
  rw [KeyStore.hash_eq_ok]
  refine and_congr_right fun _ => ?_
  rw [HasContent]
  cases decoded : Base64.decode? text.toList with
  | none => simp [decoded]
  | some expected =>
    simp only [decoded, Option.some.injEq, eq_comm (a := expected)]
    split <;> simp_all

theorem validate_eq_ok :
    document.validate suite now store = .ok () ↔
      document.validateSignature suite store = .ok () ∧ document.Fresh now ∧
        document.validateHash suite store = .ok () := by
  simp only [validate, bind_eq_ok, exists_unit_eq_ok, validateExpiry_eq_ok]

end Records

end Document

end SignedAdmission
