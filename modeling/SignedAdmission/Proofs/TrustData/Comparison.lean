import Mathlib.Data.List.Perm.Subperm
import SignedAdmission.Proofs.TrustData.Signers

/-! Two validations of one image over the same documents: with fewer delegations required, and with
and without strictness. -/
namespace SignedAdmission.Chain

open Checks

section Requirements

variable {suite : Suite} {now : Instant} {strict : Bool} {fetch : Fetch} {root : TrustRoot}
  {store : KeyStore} {required smaller larger : List Role} {image : Reference} {digest : String}

/-- Each role has a valid document that can be fetched and has the digest for the image. -/
def Unanimous (suite : Suite) (now : Instant) (fetch : Fetch) (store : KeyStore)
    (image : Reference) (digest : String) (roles : List Role) : Prop :=
  ∀ role ∈ roles, ∃ document, fetch role = .ok document ∧
    document.validate suite now store = .ok () ∧
    search document.targets image = .ok (some digest)

theorem Unanimous.subset (unanimous : Unanimous suite now fetch store image digest larger)
    (subset : smaller ⊆ larger) : Unanimous suite now fetch store image digest smaller :=
  fun role member => unanimous role (subset member)

/-- What can be fetched for unanimous roles is valid and has the digest. -/
theorem Unanimous.of_fetch {role : Role} {document : Document}
    (unanimous : Unanimous suite now fetch store image digest required) (asked : role ∈ required)
    (fetched : fetch role = .ok document) :
    document.validate suite now store = .ok () ∧
      search document.targets image = .ok (some digest) := by
  obtain ⟨other, served, valid, has⟩ := unanimous role asked
  obtain rfl : document = other := Except.ok.inj (fetched.symm.trans served)
  exact ⟨valid, has⟩

theorem Unanimous.exists_documents
    (unanimous : Unanimous suite now fetch store image digest required) :
    ∃ documents,
      List.Forall₂ (fun role document => fetch role = .ok document) required documents ∧
        ∀ document ∈ documents, search document.targets image = .ok (some digest) := by
  obtain ⟨documents, fetched⟩ := exists_forall₂ fun role asked =>
    (unanimous role asked).imp fun document has => has.1
  refine ⟨documents, fetched, fun document member => ?_⟩
  obtain ⟨role, asked, served⟩ := exists_of_mem_right fetched document member
  exact (unanimous.of_fetch asked served).2

/-- Documents that all have one digest for the image agree on it. -/
theorem agree_of_unanimous {documents : List Document} (some_document : documents ≠ [])
    (unanimous : ∀ document ∈ documents, search document.targets image = .ok (some digest)) :
    (∃ document ∈ documents, document.targets ≠ []) ∧
      ∃ found, List.Forall₂ (fun document result => search document.targets image = .ok result)
        documents found ∧ agree required image found = .ok digest := by
  obtain ⟨first, member⟩ := List.exists_mem_of_ne_nil _ some_document
  constructor
  · obtain ⟨tag, target, -, listed, -⟩ := (search_eq_some (unanimous first member)).signed
    exact ⟨first, member, List.ne_nil_of_mem listed⟩
  · refine ⟨documents.map fun _ => some digest, ?_, agree_eq_ok.mpr ?_⟩
    · rw [List.forall₂_map_right_iff]
      exact List.forall₂_same.mpr unanimous
    · exact ⟨by simp, List.mem_map_of_mem member, by simp +contextual [eq_comm]⟩

/-- Required delegations find a digest if all of them have it. Only where the default one is the
sole one and cannot be fetched, the targets document is asked in its place. -/
theorem validate_required_eq_ok (demanded : required ≠ []) :
    (validate suite now strict fetch root required image).result = .ok digest ↔
      ∃ start, base suite now fetch root required = .ok start ∧
        (Unanimous suite now fetch start.store image digest required ∨
          required = [.releases] ∧ strict = false ∧ (∃ e, fetch .releases = .error e) ∧
            search start.targets.targets image = .ok (some digest)) := by
  rw [validate_eq_ok]
  refine exists_congr fun start => and_congr_right fun walked => ?_
  obtain ⟨targets, store, roles⟩ := start
  obtain ⟨documents, -, -, -, asked, -⟩ := base_eq_ok.mp walked
  rw [consulted_of_required demanded] at asked
  subst asked
  constructor
  · rintro ⟨valid, documents, deciding, -, found, searched, agreed⟩
    have has := search_of_agree searched agreed demanded
    cases deciding with
    | delegated fetched =>
      refine .inl fun role asked => ?_
      obtain ⟨document, member, fetched⟩ := exists_of_mem_left fetched role asked
      exact ⟨document, fetched, (valid role asked).1 document fetched, has document member⟩
    | unpublished unfetched =>
      have lenient : strict = false := by
        by_contra strictly
        obtain ⟨document, fetched⟩ :=
          (valid .releases List.mem_cons_self).2 (by simpa using strictly)
        simp [unfetched] at fetched
      exact .inr ⟨rfl, lenient, ⟨_, unfetched⟩, has _ (List.mem_singleton_self _)⟩
  · rintro (unanimous | ⟨rfl, rfl, ⟨e, unfetched⟩, has⟩)
    · obtain ⟨documents, fetched, has⟩ := unanimous.exists_documents
      have some_document : documents ≠ [] := by
        rintro rfl
        exact demanded (List.forall₂_nil_right_iff.mp fetched)
      refine ⟨fun role asked => ⟨fun document served => (unanimous.of_fetch asked served).1,
        fun _ => ?_⟩, documents, .delegated fetched, agree_of_unanimous some_document has⟩
      exact (unanimous role asked).imp fun document has => has.1
    · refine ⟨fun role asked => ?_, [targets], .unpublished unfetched,
        agree_of_unanimous (by simp) (by simpa using has)⟩
      obtain rfl := List.mem_singleton.mp asked
      simp [unfetched]

/-- The walk is the same if fewer delegations are required. -/
theorem base_of_subset {start : Base} (demanded : smaller ≠ []) (subset : smaller ⊆ larger)
    (walked : base suite now fetch root larger = .ok start) :
    base suite now fetch root smaller = .ok { start with roles := some smaller } := by
  obtain ⟨role, member⟩ := List.exists_mem_of_ne_nil _ demanded
  have larger_demanded : larger ≠ [] := List.ne_nil_of_mem (subset member)
  obtain ⟨documents, fetched, valid, targets, roles, declared⟩ := base_eq_ok.mp walked
  rw [roles, consulted_of_required larger_demanded] at declared
  refine base_eq_ok.mpr ⟨documents, fetched, valid, targets,
    (consulted_of_required demanded _).symm, fun role member => ?_⟩
  exact declared role (subset member)

/-- Fewer required delegations find the same digest. -/
theorem result_of_subset (distinct : smaller.Nodup) (demanded : smaller ≠ [])
    (subset : smaller ⊆ larger)
    (h : (validate suite now strict fetch root larger image).result = .ok digest) :
    (validate suite now strict fetch root smaller image).result = .ok digest := by
  obtain ⟨role, member⟩ := List.exists_mem_of_ne_nil _ demanded
  have larger_demanded : larger ≠ [] := List.ne_nil_of_mem (subset member)
  obtain ⟨start, walked, has⟩ := (validate_required_eq_ok larger_demanded).mp h
  refine (validate_required_eq_ok demanded).mpr ⟨_, base_of_subset demanded subset walked, ?_⟩
  obtain unanimous | ⟨rfl, substituted⟩ := has
  · exact .inl (unanimous.subset subset)
  -- Nothing but the default delegation is left to require.
  · have sole := List.subperm_singleton_iff.mp (List.subperm_of_subset distinct subset)
    exact .inr ⟨sole.resolve_left demanded, substituted⟩

/-- Requiring fewer delegations, without repeating any, keeps every digest that is found, and the
order in which they are required does not matter. -/
theorem requirement_antitone (distinct : smaller.Nodup) (demanded : smaller ≠ []) :
    (smaller ⊆ larger →
        (validate suite now strict fetch root larger image).result = .ok digest →
        (validate suite now strict fetch root smaller image).result = .ok digest) ∧
      (smaller.Perm larger →
        ((validate suite now strict fetch root smaller image).result = .ok digest ↔
          (validate suite now strict fetch root larger image).result = .ok digest)) := by
  refine ⟨fun subset => result_of_subset distinct demanded subset, fun reordered => ?_⟩
  have larger_demanded : larger ≠ [] := fun empty => demanded (List.perm_nil.mp (empty ▸ reordered))
  exact ⟨result_of_subset (reordered.nodup_iff.mp distinct) larger_demanded reordered.symm.subset,
    result_of_subset distinct demanded reordered.subset⟩

/-- The digest that is found where the sole signer serves an edition and some delegations are
required. -/
def editionResult (served : Served) (required : List Role) : Except TrustError String :=
  (validate Edition.soleSigner.suite (.ofSeconds 0) false served.fetch Edition.soleSigner.key
    required Publication.sampleImage).result

theorem editionResult_both :
    editionResult Edition.usurpedServed [.delegation "alice", .releases] =
      .ok Edition.usurped.releasedDigest := by
  have asked : consulted Edition.usurped.targets [.delegation "alice", .releases] =
      some (["alice", "releases"].map Role.delegation) :=
    consulted_of_required (by simp) _
  rw [editionResult]
  refine Edition.readable_usurped.validate_delegated (by decide) asked (by simp) ?_ rfl rfl
  intro name member
  have declared : (Role.delegation name).text ∈
      ["alice", "releases"].map fun name => (Role.delegation name).text :=
    List.mem_map_of_mem member
  exact ⟨member, declared, rfl⟩

/-- What two delegations sign is found as well if only one of them is required, or both in the other
order. -/
theorem requirement_antitone_of_usurped :
    [Role.releases].Nodup ∧ [Role.releases, .delegation "alice"].Nodup ∧
      [Role.releases] ≠ [] ∧ [Role.releases, .delegation "alice"] ≠ [] ∧
      [Role.releases] ⊆ [.delegation "alice", .releases] ∧
      [Role.releases, .delegation "alice"].Perm [.delegation "alice", .releases] ∧
      editionResult Edition.usurpedServed [.delegation "alice", .releases] =
        .ok Edition.usurped.releasedDigest ∧
      editionResult Edition.usurpedServed [.releases] = .ok Edition.usurped.releasedDigest ∧
      editionResult Edition.usurpedServed [.releases, .delegation "alice"] =
        .ok Edition.usurped.releasedDigest := by
  have single : [Role.releases].Nodup := by simp
  have distinct : [Role.releases, .delegation "alice"].Nodup := by decide
  have subset : [Role.releases] ⊆ [.delegation "alice", .releases] := by simp
  have reordered : [Role.releases, .delegation "alice"].Perm [.delegation "alice", .releases] :=
    List.Perm.swap ..
  have both := editionResult_both
  refine ⟨single, distinct, List.cons_ne_nil _ _, List.cons_ne_nil _ _, subset, reordered, both,
    ?_, ?_⟩
  all_goals rw [editionResult] at both ⊢
  · exact (requirement_antitone single (List.cons_ne_nil _ _)).1 subset both
  · exact ((requirement_antitone distinct (List.cons_ne_nil _ _)).2 reordered).mpr both

end Requirements

section Strictness

variable {suite : Suite} {now : Instant} {fetch : Fetch} {root : TrustRoot}
  {required : List Role} {image : Reference} {digest : String}

/-- The default delegation is the only one to consult, and its document cannot be fetched. -/
structure Unpublished (fetch : Fetch) (required : List Role) (documents : BaseDocuments)
    (fault : TrustError) : Prop where
  fetched : Fetched fetch documents
  asked : consulted documents.targets required = some [.releases]
  unfetched : fetch .releases = .error fault

/-- What is found with strictness is found without it. -/
theorem lenient_of_strict
    (h : (validate suite now true fetch root required image).result = .ok digest) :
    (validate suite now false fetch root required image).result = .ok digest := by
  obtain ⟨start, walked, valid, decided⟩ := validate_eq_ok.mp h
  refine validate_eq_ok.mpr ⟨start, walked, fun role asked => ⟨(valid role asked).1, ?_⟩, decided⟩
  simp

/-- With strictness, a sole delegation that cannot be fetched is an error. -/
theorem strict_of_unfetched {start : Base} {role : Role} {fault : TrustError}
    (walked : base suite now fetch root required = .ok start) (asked : start.roles = some [role])
    (unfetched : fetch role = .error fault) :
    (validate suite now true fetch root required image).result = .error fault := by
  simp [validate, walked, asked, delegations, fetchDelegation, unfetched]

/-- What is found without strictness is found with it, unless the targets document takes the place
of the default delegation. -/
theorem strict_or_unpublished
    (h : (validate suite now false fetch root required image).result = .ok digest) :
    (validate suite now true fetch root required image).result = .ok digest ∨
      ∃ documents fault, Unpublished fetch required documents fault ∧
        documents.targets.Lists image digest ∧
        (validate suite now true fetch root required image).result = .error fault := by
  obtain ⟨⟨targets, store, roles⟩, walked, valid, deciding, decided, agreed⟩ :=
    validate_eq_ok.mp h
  have strict_of_fetched
      (complete : ∀ role ∈ roles.getD [], ∃ document, fetch role = .ok document) :
      (validate suite now true fetch root required image).result = .ok digest :=
    validate_eq_ok.mpr ⟨_, walked, fun role asked => ⟨(valid role asked).1,
      fun _ => complete role asked⟩, deciding, decided, agreed⟩
  cases decided with
  | undelegated => exact .inl (strict_of_fetched (by simp))
  | delegated fetched =>
    refine .inl (strict_of_fetched fun role asked => ?_)
    obtain ⟨document, -, served⟩ := exists_of_mem_left fetched role asked
    exact ⟨document, served⟩
  | @unpublished fault unfetched =>
    obtain ⟨documents, fetched, -, rfl, asked, -⟩ := base_eq_ok.mp walked
    obtain ⟨-, found, searched, agreed⟩ := agreed
    obtain ⟨document, decides, listed⟩ := (lists_of_agree searched agreed).1
    obtain rfl := List.mem_singleton.mp decides
    exact .inr ⟨documents, fault, ⟨fetched, asked.symm, unfetched⟩, listed,
      strict_of_unfetched walked rfl unfetched⟩

/-- Strictness keeps every digest that is found, but for those that the targets document is asked
for because the default delegation cannot be fetched: that failure is the error then. Nothing else
depends on it. -/
theorem strictness_refuses_unpublished :
    ((validate suite now true fetch root required image).result = .ok digest →
        (validate suite now false fetch root required image).result = .ok digest) ∧
      ((validate suite now false fetch root required image).result = .ok digest →
        (validate suite now true fetch root required image).result ≠ .ok digest →
        ∃ documents fault, Unpublished fetch required documents fault ∧
          documents.targets.Lists image digest ∧
          (validate suite now true fetch root required image).result = .error fault) ∧
      ((¬ ∃ documents fault, Unpublished fetch required documents fault) →
        ((validate suite now true fetch root required image).result = .ok digest ↔
          (validate suite now false fetch root required image).result = .ok digest)) := by
  refine ⟨lenient_of_strict, fun found refused => ?_, fun published => ⟨lenient_of_strict, ?_⟩⟩
  · exact (strict_or_unpublished found).resolve_left refused
  · intro found
    refine (strict_or_unpublished found).resolve_right ?_
    rintro ⟨documents, fault, unpublished, -⟩
    exact published ⟨documents, fault, unpublished⟩

end Strictness

end SignedAdmission.Chain
