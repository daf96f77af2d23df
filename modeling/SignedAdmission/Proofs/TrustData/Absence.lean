import SignedAdmission.Proofs.TrustData.Signers

/-! Delegations that are missing: those that the targets document does not declare, which nothing is
fetched for, and those that are declared but have no document. Each is named in the list's order. -/
namespace SignedAdmission.Chain

open Checks

/-- The names of the roles that a targets document does not declare. -/
def undeclared (targets : Document) (roles : List Role) : List String :=
  (roles.map Role.text).filter (· ∉ targets.delegations)

/-- The roles that there is no document for. -/
def unobtainable (fetch : Fetch) (roles : List Role) : List Role :=
  roles.filter fun role => (fetch role).toOption.isNone

section Missing

variable {suite : Suite} {now : Instant} {strict : Bool} {fetch fetch' : Fetch} {root : TrustRoot}
  {required roles : List Role} {image : Reference} {documents : BaseDocuments} {store : KeyStore}

theorem mem_undeclared {targets : Document} {name : String} :
    name ∈ undeclared targets roles ↔
      ∃ role ∈ roles, role.text ∉ targets.delegations ∧ role.text = name := by
  simp only [undeclared, List.mem_filter, List.mem_map, decide_eq_true_eq]
  constructor
  · rintro ⟨⟨role, member, rfl⟩, absent⟩
    exact ⟨role, member, absent, rfl⟩
  · rintro ⟨role, member, absent, rfl⟩
    exact ⟨⟨role, member, rfl⟩, absent⟩

theorem mem_unobtainable {role : Role} :
    role ∈ unobtainable fetch roles ↔ role ∈ roles ∧ ∃ e, fetch role = .error e := by
  rw [unobtainable, List.mem_filter, Option.isNone_iff_eq_none, toOption_eq_none]

theorem checkDeclared_of_undeclared {targets : Document} (delegating : targets.delegations ≠ [])
    (missing : ∃ role ∈ roles, role.text ∉ targets.delegations) :
    checkDeclared roles targets.delegations =
      .error (.missing (.declaredRoles (undeclared targets roles))) := by
  obtain ⟨role, member, absent⟩ := missing
  have named : undeclared targets roles ≠ [] :=
    List.ne_nil_of_mem (mem_undeclared.mpr ⟨role, member, absent, rfl⟩)
  have same : (roles.map Role.text).filter (!targets.delegations.contains ·) =
      undeclared targets roles := by
    simp [undeclared]
  rw [checkDeclared, if_neg (by simpa using delegating), same, if_neg (by simpa using named)]

theorem roles_of_consulted {targets : Document} (asked : consulted targets required = some roles) :
    (targets.hasDelegations || !required.isEmpty) = true ∧ effectiveRoles required = roles := by
  rw [consulted] at asked
  split at asked
  case isTrue delegating => exact ⟨delegating, Option.some.inj asked⟩
  case isFalse => cases asked

/-- After the base documents, the roles to consult are held against those that targets declares. -/
theorem base_of_consulted (fetched : Fetched fetch documents)
    (valid : validateBase suite now root documents = .ok store)
    (asked : consulted documents.targets required = some roles) :
    base suite now fetch root required =
      (checkDeclared roles documents.targets.delegations).map fun _ =>
        ⟨documents.targets, store, some roles⟩ := by
  obtain ⟨delegating, rfl⟩ := roles_of_consulted asked
  have documented := fetchBase_eq_ok.mpr fetched
  simp only [base, documented, valid, delegating, bind, Except.bind, if_true]
  cases checkDeclared (effectiveRoles required) documents.targets.delegations <;> rfl

/-- What a walk does with declared roles depends on their own documents only. -/
theorem delegations_congr (same : ∀ role ∈ roles, fetch' role = fetch role) :
    delegations suite now strict fetch' store roles =
      delegations suite now strict fetch store roles := by
  induction roles with
  | nil => rfl
  | cons role roles ih =>
    obtain ⟨first, others⟩ := List.forall_mem_cons.mp same
    rw [delegations, delegations, fetchDelegation, fetchDelegation, first, ih others]

/-- Documents that are absent are named, unless the default delegation is the only one. -/
theorem selectTargets_of_unobtainable {targets : Document} (several : roles ≠ [.releases])
    (missing : ∃ role ∈ roles, ∃ e, fetch role = .error e) :
    selectTargets targets (some roles) (available fetch roles) image =
      .error (.missing (.roleDocuments ((unobtainable fetch roles).map Role.text)
        image.canonical)) := by
  obtain ⟨role, member, unfetched⟩ := missing
  have named : unobtainable fetch roles ≠ [] :=
    List.ne_nil_of_mem (mem_unobtainable.mpr ⟨member, unfetched⟩)
  have absent : roles.filter (fun role => ((available fetch roles).lookup role).isNone) =
      unobtainable fetch roles :=
    List.filter_congr fun role member => by rw [lookup_available, if_pos member]
  rw [selectTargets]
  simp only [absent]
  rw [if_neg fun only => several only.1, if_neg (by simpa using named)]
  rfl

/-- With all roles declared, just their documents are fetched. -/
theorem validate_of_declared (fetched : Fetched fetch documents)
    (valid : validateBase suite now root documents = .ok store)
    (asked : consulted documents.targets required = some roles)
    (declared : ∀ role ∈ roles, role.text ∈ documents.targets.delegations) :
    validate suite now strict fetch root required image =
      { result := do
          let found ← delegations suite now strict fetch store roles
          let selected ← selectTargets documents.targets (some roles) found image
          agree required image (← selected.mapM fun targets => search targets image)
        warnings := if strict then [] else roles.filterMap (absenceWarning? fetch image)
        fetched := roles } := by
  obtain ⟨-, rfl⟩ := roles_of_consulted asked
  have passed := (checkDeclared_eq_ok (effectiveRoles_ne_nil required)).mpr declared
  rw [validate, base_of_consulted fetched valid asked, passed]
  rfl

/-- Delegations that are missing are named exactly. If some listed role is not declared by targets,
the undeclared ones are, and no document of a delegation is asked for: the outcome is the same
whatever there is for them. If all are declared, just their documents are asked for; and where some
cannot be had, those are named, unless the list is just the default delegation. -/
theorem missing_delegations_named (strict : Bool) (image : Reference)
    (fetched : Fetched fetch documents)
    (valid : validateBase suite now root documents = .ok store)
    (delegating : documents.targets.delegations ≠ [])
    (asked : consulted documents.targets required = some roles) :
    ((∃ role ∈ roles, role.text ∉ documents.targets.delegations) →
      ∃ e, e = .missing (.declaredRoles (undeclared documents.targets roles)) ∧
        e.message = "unable to find delegation roles " ++
          Text.quotedList (undeclared documents.targets roles) ++ " in trust data" ∧
        ∀ fetch', Fetched fetch' documents →
          validate suite now strict fetch' root required image = ⟨.error e, [], []⟩) ∧
    ((∀ role ∈ roles, role.text ∈ documents.targets.delegations) →
      (validate suite now strict fetch root required image).fetched = roles ∧
      (∀ fetch', Fetched fetch' documents → (∀ role ∈ roles, fetch' role = fetch role) →
        validate suite now strict fetch' root required image =
          validate suite now strict fetch root required image) ∧
      (strict = false → roles ≠ [.releases] →
        (∀ role ∈ roles, ∀ document, fetch role = .ok document →
          document.validate suite now store = .ok ()) →
        (∃ role ∈ roles, ∃ e, fetch role = .error e) →
        ∃ e, e = .missing (.roleDocuments ((unobtainable fetch roles).map Role.text)
            image.canonical) ∧
          e.message = "unable to find trust data for delegation roles " ++
            Text.quotedList ((unobtainable fetch roles).map Role.text) ++ " and image " ++
              image.canonical ∧
          (validate suite now strict fetch root required image).result = .error e)) := by
  refine ⟨fun missing => ⟨_, rfl, rfl, ?_⟩, fun declared => ⟨?_, ?_, ?_⟩⟩
  · intro fetch' fetched'
    have refused := checkDeclared_of_undeclared delegating missing
    rw [validate, base_of_consulted fetched' valid asked, refused]
    rfl
  · rw [validate_of_declared fetched valid asked declared]
  · intro fetch' fetched' same
    have warned : roles.filterMap (absenceWarning? fetch' image) =
        roles.filterMap (absenceWarning? fetch image) := by
      apply List.filterMap_congr
      intro role member
      rw [absenceWarning?, absenceWarning?, same role member]
    rw [validate_of_declared fetched valid asked declared,
      validate_of_declared fetched' valid asked declared, delegations_congr same, warned]
  · intro lenient several sound missing
    have found : delegations suite now strict fetch store roles = .ok (available fetch roles) := by
      refine delegations_eq_ok.mpr ⟨?_, rfl⟩
      intro role member
      exact ⟨sound role member, by simp [lenient]⟩
    refine ⟨_, rfl, rfl, ?_⟩
    rw [validate_of_declared fetched valid asked declared]
    simp only [found, bind, Except.bind, selectTargets_of_unobtainable several missing]

end Missing

section Sample

open Edition

/-- The sample of two delegations, one of which was never signed with. -/
def unsignedServed : Served :=
  usurped.served fun name =>
    if name = "alice" then .error (.missing (.document (.delegation "alice") none))
    else .ok (usurped.delegated name).envelope

/-- The outcome for the image of the sample. -/
def unsignedOutcome (required : List Role) : Outcome :=
  validate soleSigner.suite (.ofSeconds 0) false unsignedServed.fetch soleSigner.key required
    Publication.sampleImage

theorem missing_delegations_named_of_usurped :
    unsignedOutcome [.delegation "carol", .releases, .delegation "dave"] =
        ⟨.error (.missing (.declaredRoles ["targets/carol", "targets/dave"])), [], []⟩ ∧
      (unsignedOutcome [.releases, .delegation "alice"]).result =
        .error (.missing (.roleDocuments ["targets/alice"] "docker.io/library/image:v1")) ∧
      (unsignedOutcome [.releases, .delegation "alice"]).fetched =
        [.releases, .delegation "alice"] := by
  have early : (Instant.ofSeconds 0).nanoseconds ≤ Publisher.expires.nanoseconds := by decide
  obtain ⟨_, _, _, _, store, merges⟩ := readable_usurped.exists_merges
  have formed := readable_usurped.formed
  have valid := (validateBase_eq_ok formed).mpr ⟨trusted early, _, _, _, _, merges⟩
  have fetched : Fetched unsignedServed.fetch usurped.documents := readable_usurped.fetched
  have delegations : usurped.documents.targets.delegations =
      ["targets/alice", "targets/releases"] := by decide +kernel
  have delegating : usurped.documents.targets.delegations ≠ [] := by simp [delegations]
  constructor
  · have asked : consulted usurped.documents.targets
        [.delegation "carol", .releases, .delegation "dave"] = some _ :=
      consulted_of_required (by simp) _
    have names : undeclared usurped.documents.targets
        [.delegation "carol", .releases, .delegation "dave"] =
          ["targets/carol", "targets/dave"] := by
      rw [undeclared, delegations]
      decide
    obtain ⟨unknown, -⟩ := missing_delegations_named false Publication.sampleImage fetched valid
      delegating asked
    obtain ⟨e, rfl, -, refused⟩ := unknown
      ⟨.delegation "carol", List.mem_cons_self, by rw [delegations]; decide⟩
    rw [names] at refused
    exact refused _ fetched
  · have asked : consulted usurped.documents.targets [.releases, .delegation "alice"] = some _ :=
      consulted_of_required (by simp) _
    have declared : ∀ role ∈ [Role.releases, .delegation "alice"],
        role.text ∈ usurped.documents.targets.delegations := by
      rw [delegations]
      decide
    have present : unsignedServed.fetch .releases = .ok (usurped.delegated "releases") :=
      fetch_delegated rfl
    have absent : unsignedServed.fetch (.delegation "alice") =
        .error (.missing (.document (.delegation "alice") none)) := rfl
    have signed : (usurped.delegated "releases").SignedUnder usurped.publisher.suite
        (delegationRing usurped.publisher.key usurped.documents) :=
      Publisher.signedUnder_document delegationRing_pinnedId
    have sound : (usurped.delegated "releases").validate usurped.publisher.suite (.ofSeconds 0)
        store = .ok () :=
      (validate_delegation (Served.wellFormed present) (merges.ring_store formed)
        (merges.hashes_store formed)).mpr ⟨signed, early, recordedAs_delegated (by simp [usurped])⟩
    obtain ⟨-, known⟩ := missing_delegations_named false Publication.sampleImage fetched valid
      delegating asked
    obtain ⟨all, -, named⟩ := known declared
    obtain ⟨e, rfl, -, failed⟩ := named rfl (by simp) (by simp [present, absent, sound])
      ⟨.delegation "alice", by simp, _, absent⟩
    have names : unobtainable unsignedServed.fetch [.releases, .delegation "alice"] =
        [.delegation "alice"] := by
      simp [unobtainable, present, absent]
    rw [names] at failed
    exact ⟨failed, all⟩

end Sample

end SignedAdmission.Chain
