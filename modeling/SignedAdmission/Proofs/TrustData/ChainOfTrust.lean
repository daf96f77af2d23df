import SignedAdmission.Proofs.TrustData.Publication

/-! The chain of trust behind a digest. Whatever a server hands out for each role, a digest is found
only if every document that was used hangs on the pinned key. -/
namespace SignedAdmission.Chain

open Checks

/-- A document of a delegation that the base documents vouch for. -/
structure Delegated (suite : Suite) (now : Instant) (root : TrustRoot) (documents : BaseDocuments)
    (name : String) (document : Document) : Prop where
  formed : document.WellFormed (.delegation name)
  declared : (Role.delegation name).text ∈ documents.targets.delegations
  signed : document.SignedUnder suite (delegationRing root documents)
  fresh : document.Fresh now
  recorded : document.RecordedAs suite documents.snapshot (Role.delegation name).text

/-- All that was fetched for a digest hangs on the pinned key. -/
structure ChainOfTrust (suite : Suite) (now : Instant) (served : Served) (root : TrustRoot)
    (required : List Role) (documents : BaseDocuments) : Prop where
  fetched : Fetched served.fetch documents
  formed : documents.WellFormed
  trusted : Trusted suite now root documents
  delegated : ∀ name, .delegation name ∈ (consulted documents.targets required).getD [] →
    ∀ document, served.fetch (.delegation name) = .ok document →
      Delegated suite now root documents name document

section Soundness

variable {suite : Suite} {now : Instant} {strict : Bool} {served : Served} {root : TrustRoot}
  {required : List Role} {image : Reference} {digest : String}

/-- How a digest is found: the base documents are trusted, and the documents that decide about the
image are searched and agree. Only delegations that could not be fetched are warned about. -/
theorem exists_decision
    (h : (validate suite now strict served.fetch root required image).result = .ok digest) :
    ∃ documents deciding found, ChainOfTrust suite now served root required documents ∧
      Deciding served.fetch documents.targets (consulted documents.targets required) deciding ∧
      List.Forall₂ (fun document result => search document.targets image = .ok result)
        deciding found ∧
      agree required image found = .ok digest ∧
      (strict = true → ∀ role ∈ (consulted documents.targets required).getD [],
        ∃ document, served.fetch role = .ok document) ∧
      (strict = false →
        (validate suite now strict served.fetch root required image).warnings =
          ((consulted documents.targets required).getD []).filterMap
            (absenceWarning? served.fetch image)) := by
  obtain ⟨start, walked, valid, deciding, decided, -, found, searched, agreed⟩ :=
    validate_eq_ok.mp h
  obtain ⟨documents, fetched, trusted, targets, roles, declared, ring, hashes⟩ :=
    base_trusted walked
  rw [targets, roles] at decided
  rw [roles] at valid declared
  have delegated (name : String)
      (asked : .delegation name ∈ (consulted documents.targets required).getD [])
      (document : Document) (served : served.fetch (.delegation name) = .ok document) :
      Delegated suite now root documents name document := by
    have formed := Served.wellFormed served
    obtain ⟨signed, fresh, recorded⟩ :=
      (validate_delegation formed ring hashes).mp ((valid _ asked).1 document served)
    exact ⟨formed, declared _ asked, signed, fresh, recorded⟩
  refine ⟨documents, deciding, found, ⟨fetched, Served.wellFormed_base fetched, trusted, delegated⟩,
    decided, searched, agreed, fun strictly role asked => (valid role asked).2 strictly, ?_⟩
  rintro rfl
  simp [validate, walked, roles]

/-- A digest is only found over documents that all hang on the pinned key, and one of those that
decide about the image lists it for that digest. -/
theorem chainOfTrust_of_validate
    (h : (validate suite now strict served.fetch root required image).result = .ok digest) :
    ∃ documents, ChainOfTrust suite now served root required documents ∧
      ∃ deciding,
        Deciding served.fetch documents.targets (consulted documents.targets required) deciding ∧
        ∃ document ∈ deciding, document.Lists image digest := by
  obtain ⟨documents, deciding, found, chain, decided, searched, agreed, -⟩ := exists_decision h
  exact ⟨documents, chain, deciding, decided, (lists_of_agree searched agreed).1⟩

theorem chainOfTrust_of_sampleServed :
    Publication.sampleResult Publication.sampleServed [] =
        .ok Publication.sample.releasedDigest ∧
      ∃ documents, ChainOfTrust Publication.sample.publisher.suite (.ofSeconds 0)
          Publication.sampleServed Publication.sample.publisher.key [] documents ∧
        ∃ deciding, Deciding Publication.sampleServed.fetch documents.targets
            (consulted documents.targets []) deciding ∧
          ∃ document ∈ deciding,
            document.Lists Publication.sampleImage Publication.sample.releasedDigest := by
  have resolved := Publication.sampleResult_published (.inl rfl)
  refine ⟨resolved, ?_⟩
  rw [Publication.sampleResult] at resolved
  exact chainOfTrust_of_validate resolved

end Soundness

end SignedAdmission.Chain
