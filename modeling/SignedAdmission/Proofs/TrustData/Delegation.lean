import SignedAdmission.Proofs.TrustData.ChainOfTrust

/-! Which delegations stand behind a digest, and when the targets document takes the place of the
default one. -/
namespace SignedAdmission.Chain

open Checks

/-- The document of a delegation is served, vouched for, and lists the image for a digest. -/
def Signs (suite : Suite) (now : Instant) (served : Served) (root : TrustRoot)
    (documents : BaseDocuments) (image : Reference) (digest name : String) : Prop :=
  ∃ document, served.fetch (.delegation name) = .ok document ∧
    Delegated suite now root documents name document ∧ document.Lists image digest

section Required

variable {suite : Suite} {now : Instant} {strict : Bool} {served : Served} {root : TrustRoot}
  {required roles : List Role} {image : Reference} {digest : String} {documents : BaseDocuments}
  {deciding : List Document}

/-- Delegations sign a digest if all their documents decide and list it. -/
theorem signs_of_deciding (chain : ChainOfTrust suite now served root required documents)
    (asked : (consulted documents.targets required).getD [] = roles)
    (fetched : List.Forall₂ (fun role document => served.fetch role = .ok document) roles deciding)
    (listed : ∀ document ∈ deciding, document.Lists image digest) :
    ∀ name, .delegation name ∈ roles →
      Signs suite now served root documents image digest name := by
  intro name member
  obtain ⟨document, decides, fetched⟩ := exists_of_mem_left fetched _ member
  exact ⟨document, fetched, chain.delegated name (asked ▸ member) document fetched,
    listed document decides⟩

/-- Only without strictness is a delegation passed over that cannot be fetched. -/
theorem lenient_of_unfetched {role : Role} {e : TrustError}
    (strictly : strict = true → ∀ role ∈ roles, ∃ document, served.fetch role = .ok document)
    (asked : role ∈ roles) (unfetched : served.fetch role = .error e) : strict = false := by
  by_contra strict
  obtain ⟨document, fetched⟩ := strictly (by simpa using strict) role asked
  simp [unfetched] at fetched

/-- Every delegation that is required signs the digest, with one exception: if the default one is
the only one and cannot be fetched, the targets document stands in for it. -/
theorem required_sign_iff (demanded : required ≠ [])
    (h : (validate suite now strict served.fetch root required image).result = .ok digest) :
    ∃ documents, ChainOfTrust suite now served root required documents ∧
      ((∀ name, .delegation name ∈ required →
          Signs suite now served root documents image digest name) ↔
        ¬ (required = [.releases] ∧ ∃ e, served.fetch .releases = .error e)) ∧
      (required = [.releases] → (∃ e, served.fetch .releases = .error e) →
        strict = false ∧ documents.targets.Lists image digest) := by
  obtain ⟨documents, deciding, found, chain, decided, searched, agreed, strictly, -⟩ :=
    exists_decision h
  have listed := (lists_of_agree searched agreed).2 demanded
  have asked := consulted_of_required demanded documents.targets
  rw [asked] at decided strictly
  refine ⟨documents, chain, ?_⟩
  cases decided with
  | unpublished unfetched =>
    have lenient := lenient_of_unfetched strictly (List.mem_singleton_self _) unfetched
    have unsigned : ¬ Signs suite now served root documents image digest "releases" := by
      rintro ⟨document, fetched, -⟩
      simp [← Role.releases.eq_def, unfetched] at fetched
    have only : [Role.releases] = [.releases] ∧ ∃ e, served.fetch .releases = .error e :=
      ⟨rfl, _, unfetched⟩
    refine ⟨⟨fun signs => absurd (signs "releases" (List.mem_singleton_self _)) unsigned,
      fun other => absurd only other⟩, fun _ _ => ⟨lenient, ?_⟩⟩
    exact listed _ (List.mem_singleton_self _)
  | delegated fetched =>
    have signs := signs_of_deciding chain (by rw [asked]; rfl) fetched listed
    have available (only : required = [.releases]) : ¬ ∃ e, served.fetch .releases = .error e := by
      rintro ⟨e, unfetched⟩
      subst only
      obtain ⟨document, -, fetched⟩ := exists_of_mem_left fetched .releases (by simp)
      simp [unfetched] at fetched
    exact ⟨⟨fun _ ⟨only, unfetched⟩ => available only unfetched, fun _ => signs⟩,
      fun only unfetched => absurd unfetched (available only)⟩

theorem required_sign_of_sampleServed :
    [Role.releases] ≠ [] ∧
      Publication.sampleResult Publication.sampleServed [.releases] =
        .ok Publication.sample.releasedDigest ∧
      ∃ documents, ChainOfTrust Publication.sample.publisher.suite (.ofSeconds 0)
          Publication.sampleServed Publication.sample.publisher.key [.releases] documents ∧
        ((∀ name, .delegation name ∈ [Role.releases] →
            Signs Publication.sample.publisher.suite (.ofSeconds 0) Publication.sampleServed
              Publication.sample.publisher.key documents Publication.sampleImage
              Publication.sample.releasedDigest name) ↔
          ¬ ([Role.releases] = [.releases] ∧
            ∃ e, Publication.sampleServed.fetch .releases = .error e)) := by
  have demanded : [Role.releases] ≠ [] := by simp
  have resolved := Publication.sampleResult_published (.inr rfl)
  refine ⟨demanded, resolved, ?_⟩
  rw [Publication.sampleResult] at resolved
  obtain ⟨documents, chain, signs, -⟩ := required_sign_iff demanded resolved
  exact ⟨documents, chain, signs⟩

/-- Without its document, the required default delegation does not sign what is found. -/
theorem required_unsigned_of_sampleWithheld :
    Publication.sampleResult Publication.sampleWithheld [.releases] =
        .ok Publication.sample.plainDigest ∧
      ¬ ∃ document, Publication.sampleWithheld.fetch .releases = .ok document := by
  refine ⟨Publication.sampleResult_withheld (.inr rfl), ?_⟩
  rintro ⟨document, fetched⟩
  cases fetched

end Required

section Default

variable {suite : Suite} {now : Instant} {strict : Bool} {served : Served} {root : TrustRoot}
  {image : Reference} {digest : String}

/-- If none is required and targets delegates, the default delegation signs the digest unless its
document cannot be fetched. Then the targets document stands in for it, with a warning, even if the
snapshot has a record of the document. One that is served but not vouched for is never passed
over. -/
theorem default_signs_or_unfetched
    (h : (validate suite now strict served.fetch root [] image).result = .ok digest) :
    ∃ documents, ChainOfTrust suite now served root [] documents ∧
      (documents.targets.hasDelegations = true →
        Signs suite now served root documents image digest "releases" ∨
        strict = false ∧ documents.targets.Lists image digest ∧
          ∃ warning, absenceWarning? served.fetch image .releases = some warning ∧
            (validate suite now strict served.fetch root [] image).warnings = [warning]) := by
  obtain ⟨documents, deciding, found, chain, decided, searched, agreed, strictly, warned⟩ :=
    exists_decision h
  refine ⟨documents, chain, fun delegating => ?_⟩
  have asked := consulted_default delegating
  rw [asked] at decided strictly warned
  obtain ⟨document, decides, listed⟩ := (lists_of_agree searched agreed).1
  cases decided with
  | unpublished unfetched =>
    right
    have lenient := lenient_of_unfetched strictly (List.mem_singleton_self _) unfetched
    obtain ⟨warning, warns⟩ :
        ∃ warning, absenceWarning? served.fetch image .releases = some warning := by
      simp [absenceWarning?, unfetched]
    refine ⟨lenient, ?_, warning, warns, ?_⟩
    · rwa [List.mem_singleton.mp decides] at listed
    · rw [warned lenient]
      simp [warns]
  | delegated fetched =>
    left
    obtain ⟨only, fetchedOnly, rfl⟩ : ∃ only, served.fetch .releases = .ok only ∧
        deciding = [only] := by
      simpa [List.forall₂_cons_left_iff] using fetched
    obtain rfl := List.mem_singleton.mp decides
    have all : ∀ other ∈ [document], other.Lists image digest := by simpa using listed
    exact signs_of_deciding chain (by rw [asked]; rfl) fetched all _ (List.mem_singleton_self _)

theorem default_signs_of_sampleServed :
    Publication.sampleResult Publication.sampleServed [] = .ok Publication.sample.releasedDigest ∧
      ∃ documents, ChainOfTrust Publication.sample.publisher.suite (.ofSeconds 0)
          Publication.sampleServed Publication.sample.publisher.key [] documents ∧
        (documents.targets.hasDelegations = true →
          Signs Publication.sample.publisher.suite (.ofSeconds 0) Publication.sampleServed
              Publication.sample.publisher.key documents Publication.sampleImage
              Publication.sample.releasedDigest "releases" ∨
            false = false ∧ documents.targets.Lists Publication.sampleImage
              Publication.sample.releasedDigest ∧
            ∃ warning, absenceWarning? Publication.sampleServed.fetch Publication.sampleImage
                .releases = some warning ∧
              (validate Publication.sample.publisher.suite (.ofSeconds 0) false
                Publication.sampleServed.fetch Publication.sample.publisher.key []
                Publication.sampleImage).warnings = [warning]) := by
  have resolved := Publication.sampleResult_published (.inl rfl)
  refine ⟨resolved, ?_⟩
  rw [Publication.sampleResult] at resolved
  exact default_signs_or_unfetched resolved

/-- The snapshot of the sample records a release that nobody can fetch, and the digest of the
targets document is found in its place. -/
theorem default_unsigned_of_sampleWithheld :
    Fetched Publication.sampleWithheld.fetch Publication.sample.documents ∧
      Trusted Publication.sample.publisher.suite (.ofSeconds 0) Publication.sample.publisher.key
        Publication.sample.documents ∧
      Publication.sample.documents.targets.hasDelegations = true ∧
      Role.releases.text ∈ Publication.sample.documents.targets.delegations ∧
      (Publication.sample.documents.snapshot.hashes.lookup Role.releases.text).isSome = true ∧
      Publication.sampleResult Publication.sampleWithheld [] = .ok Publication.sample.plainDigest ∧
      ¬ ∃ document, Publication.sampleWithheld.fetch .releases = .ok document := by
  refine ⟨Publication.fetched, Publication.trusted (by decide), rfl, List.mem_singleton_self _, rfl,
    Publication.sampleResult_withheld (.inl rfl), ?_⟩
  rintro ⟨document, fetched⟩
  cases fetched

end Default

end SignedAdmission.Chain
