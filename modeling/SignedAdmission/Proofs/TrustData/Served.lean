import SignedAdmission.Proofs.TrustData.Decision
import SignedAdmission.Validator.Notary

/-! Documents from a server. Whatever it has for a role is read as a document of that role, so that
every document of a walk is well formed. -/
namespace SignedAdmission

open Checks

namespace Chain

/-- What a server has for each role: a value, or a failure to get one. -/
abbrev Served := Role → Except TrustError Json

namespace Served

def fetch (served : Served) : Fetch := fun role => do
  Document.ofJson role (← served role)

theorem fetch_eq_ok {served : Served} {role : Role} {document : Document} :
    served.fetch role = .ok document ↔
      ∃ value, served role = .ok value ∧ Document.ofJson role value = .ok document := by
  rw [fetch, bind_eq_ok]

theorem wellFormed {served : Served} {role : Role} {document : Document}
    (h : served.fetch role = .ok document) : document.WellFormed role := by
  obtain ⟨value, -, read⟩ := fetch_eq_ok.mp h
  exact Document.ofJson_wellFormed read

theorem wellFormed_base {served : Served} {documents : BaseDocuments}
    (h : Fetched served.fetch documents) : documents.WellFormed where
  root := wellFormed h.root
  snapshot := wellFormed h.snapshot
  timestamp := wellFormed h.timestamp
  targets := wellFormed h.targets

end Served

section Walk

variable {suite : Suite} {now : Instant} {served : Served} {root : TrustRoot}
  {required : List Role}

/-- A walk that succeeds leaves a store that knows the keys of delegations and the hashes of the
snapshot, whose base documents are trusted. -/
theorem base_trusted {start : Base} (h : base suite now served.fetch root required = .ok start) :
    ∃ documents, Fetched served.fetch documents ∧ Trusted suite now root documents ∧
      start.targets = documents.targets ∧
      start.roles = consulted documents.targets required ∧
      (∀ role ∈ start.roles.getD [], role.text ∈ documents.targets.delegations) ∧
      start.store.ring = delegationRing root documents ∧
      ∀ name, start.store.hashes.lookup name =
        (documents.snapshot.hashes.lookup name).map MetaEntry.stored := by
  obtain ⟨documents, fetched, valid, targets, roles, declared⟩ := base_eq_ok.mp h
  have formed := Served.wellFormed_base fetched
  obtain ⟨trusted, _, _, _, _, merges⟩ := (validateBase_eq_ok formed).mp valid
  exact ⟨documents, fetched, trusted, targets, roles, declared, merges.ring_store formed,
    merges.hashes_store formed⟩

/-- The checks of a delegation's document, with the store that the walk leaves. -/
theorem validate_delegation {documents : BaseDocuments} {store : KeyStore} {name : String}
    {document : Document} (formed : document.WellFormed (.delegation name))
    (ring : store.ring = delegationRing root documents)
    (hashes : ∀ name, store.hashes.lookup name =
      (documents.snapshot.hashes.lookup name).map MetaEntry.stored) :
    document.validate suite now store = .ok () ↔
      document.SignedUnder suite (delegationRing root documents) ∧ document.Fresh now ∧
        document.RecordedAs suite documents.snapshot (Role.delegation name).text := by
  rw [Document.validate_eq_ok, validateSignature_eq_signedUnder formed (by simp) ring,
    validateHash_eq_recordedAs formed (by simp) (hashes _)]

end Walk

end Chain

namespace Notary

theorem documentOf_served (notary : Notary) (role : Role) (url : String)
    (response : Option Response) :
    ∃ answer : Except TrustError Json,
      notary.documentOf role url response = answer >>= Document.ofJson role := by
  cases response with
  | none => exact ⟨.error _, rfl⟩
  | some response =>
    rw [documentOf]
    split
    · exact ⟨.error _, rfl⟩
    · split
      · exact ⟨.error _, rfl⟩
      · rw [Document.ofBytes]
        split
        · exact ⟨.ok _, rfl⟩
        · exact ⟨.error _, rfl⟩

/-- The documents of a notary are values that were read for the role that was asked for. -/
theorem exists_served (notary : Notary) (image : Reference) (server : Server) :
    ∃ served : Chain.Served,
      (fun role => (notary.fetch image role).run server []) = served.fetch := by
  have answered (role : Role) : ∃ answer : Except TrustError Json,
      (notary.fetch image role).run server [] = answer >>= Document.ofJson role := by
    simp only [fetch, Exchange.run]
    split
    · exact notary.documentOf_served role _ _
    · split
      · exact ⟨.error _, rfl⟩
      · simp only [Exchange.run]
        split
        · exact ⟨.error _, rfl⟩
        · exact notary.documentOf_served role _ _
  choose served same using answered
  exact ⟨served, funext same⟩

end Notary

end SignedAdmission
