import Mathlib.Data.Set.Subsingleton
import SignedAdmission.Proofs.TrustData.Search
import SignedAdmission.Proofs.TrustData.Signers

/-! Agreement on a digest. The documents that decide about an image are asked in their order, and
what comes of it only depends on the first one that refuses the image, on whether one goes without
it, and on the set of digests that it is listed for. -/
namespace SignedAdmission.Chain

open Checks

/-- The digests that some document lists an image for. -/
def digests (documents : List Document) (image : Reference) : Set String :=
  {digest | ∃ document ∈ documents, document.Lists image digest}

/-- The first document that refuses an image does it for this reason. -/
def FirstRefusal (documents : List Document) (image : Reference) (e : TrustError) : Prop :=
  ∃ before document after, documents = before ++ document :: after ∧
    (∀ earlier ∈ before, ∀ e, ¬ earlier.Refuses image e) ∧ document.Refuses image e

def Unrefused (documents : List Document) (image : Reference) : Prop :=
  ∀ document ∈ documents, ∀ e, ¬ document.Refuses image e

/-- If delegations are required, every document lists the image. -/
def Complete (required : List Role) (documents : List Document) (image : Reference) : Prop :=
  required ≠ [] → ∀ document ∈ documents, ∃ digest, document.Lists image digest

/-- How documents settle the digest of an image. -/
structure Settles (required : List Role) (documents : List Document) (image : Reference)
    (result : Except TrustError String) : Prop where
  refused : (∃ document ∈ documents, ∃ e, document.Refuses image e) →
    ∃ e, FirstRefusal documents image e ∧ result = .error e
  incomplete : Unrefused documents image → ¬ Complete required documents image →
    result = .error (.insufficientTrustData image.canonical)
  agreed : Unrefused documents image → Complete required documents image →
    ∀ digest, result = .ok digest ↔ digests documents image = {digest}
  unlisted : Unrefused documents image → Complete required documents image →
    ∀ what, result = .error (.missing what) ↔
      digests documents image = ∅ ∧ what = .digest image.canonical
  ambiguous : Unrefused documents image → Complete required documents image →
    ∀ named, result = .error (.ambiguousDigest named) ↔
      (digests documents image).Nontrivial ∧ named = image.canonical

/-- What a set of digests that an image is listed for comes to. -/
inductive Agrees (image : Reference) : Set String → Except TrustError String → Prop
  | unlisted : Agrees image ∅ (.error (.missing (.digest image.canonical)))
  | one (digest : String) : Agrees image {digest} (.ok digest)
  | several {digests : Set String} (several : digests.Nontrivial) :
    Agrees image digests (.error (.ambiguousDigest image.canonical))

namespace Agrees

variable {image : Reference} {digests : Set String} {result : Except TrustError String}

theorem eq_ok (agrees : Agrees image digests result) (digest : String) :
    result = .ok digest ↔ digests = {digest} := by
  cases agrees with
  | unlisted => simp [(Set.singleton_ne_empty digest).symm]
  | one other => simp
  | several several => simp [several.ne_singleton]

theorem eq_missing (agrees : Agrees image digests result) (what : Missing) :
    result = .error (.missing what) ↔ digests = ∅ ∧ what = .digest image.canonical := by
  cases agrees with
  | unlisted => simp [eq_comm]
  | one other => simp
  | several several => simp [several.nonempty.ne_empty]

theorem eq_ambiguous (agrees : Agrees image digests result) (named : String) :
    result = .error (.ambiguousDigest named) ↔
      digests.Nontrivial ∧ named = image.canonical := by
  cases agrees with
  | unlisted => simp
  | one other => simp
  | several several => simp [several, eq_comm]

end Agrees

section Agreeing

variable {required : List Role} {image : Reference} {found : List (Option String)}

theorem eraseDups_cases (digests : List String) :
    digests.eraseDups = [] ∧ {digest | digest ∈ digests} = (∅ : Set String) ∨
      (∃ digest, digests.eraseDups = [digest] ∧
        {digest | digest ∈ digests} = ({digest} : Set String)) ∨
      ∃ first second rest, digests.eraseDups = first :: second :: rest ∧
        {digest | digest ∈ digests}.Nontrivial := by
  have members : {digest | digest ∈ digests} = {digest | digest ∈ digests.eraseDups} := by
    simp only [List.mem_eraseDups]
  rw [members]
  cases digests with
  | nil => exact .inl ⟨rfl, by simp⟩
  | cons first rest =>
    rw [List.eraseDups_cons]
    cases others : (rest.filter fun digest => !digest == first).eraseDups with
    | nil => exact .inr (.inl ⟨first, rfl, by simp⟩)
    | cons second more =>
      have member : second ∈ (rest.filter fun digest => !digest == first).eraseDups := by
        simp [others]
      have different : second ≠ first := by
        rw [List.mem_eraseDups, List.mem_filter] at member
        simpa using member.2
      refine .inr (.inr ⟨first, second, more, rfl, first, by simp, second, by simp, ?_⟩)
      exact different.symm

theorem agree_incomplete (demanded : required ≠ []) (absent : none ∈ found) :
    agree required image found = .error (.insufficientTrustData image.canonical) := by
  have incomplete : (!required.isEmpty && found.any Option.isNone) = true := by
    simpa [demanded] using absent
  rw [agree, if_pos incomplete]

/-- Where nothing required is absent, the set of digests decides. -/
theorem agree_agrees (complete : required ≠ [] → none ∉ found) :
    Agrees image {digest | some digest ∈ found} (agree required image found) := by
  have unfinished : ¬ (!required.isEmpty && found.any Option.isNone) = true := by
    simpa using complete
  have members : {digest | some digest ∈ found} = {digest | digest ∈ found.filterMap id} := by
    simp
  rw [agree, if_neg unfinished, members]
  rcases eraseDups_cases (found.filterMap id) with
    ⟨same, none⟩ | ⟨digest, same, one⟩ | ⟨first, second, rest, same, several⟩
  · rw [same, none]
    exact .unlisted
  · rw [same, one]
    exact .one digest
  · rw [same]
    exact .several several

end Agreeing

section Documents

variable {required : List Role} {image : Reference} {documents : List Document}

/-- What comes of searching documents one by one. -/
def settle (required : List Role) (image : Reference) (documents : List Document) :
    Except TrustError String := do
  agree required image (← documents.mapM fun document => search document.targets image)

theorem settle_of_refusal {e : TrustError} (refusal : FirstRefusal documents image e) :
    settle required image documents = .error e := by
  obtain ⟨before, document, after, split, earlier, refused⟩ := refusal
  refine bind_eq_error.mpr (.inl (mapM_eq_error.mpr ⟨before, document, after, split, ?_, ?_⟩))
  · intro document member
    obtain ⟨result, searched, -⟩ := exists_search (earlier document member)
    exact ⟨result, searched⟩
  · exact search_eq_error.mpr refused

theorem exists_firstRefusal (refused : ∃ document ∈ documents, ∃ e, document.Refuses image e) :
    ∃ e, FirstRefusal documents image e := by
  induction documents with
  | nil => simp at refused
  | cons document documents ih =>
    by_cases here : ∃ e, document.Refuses image e
    · obtain ⟨e, here⟩ := here
      exact ⟨e, [], document, documents, rfl, by simp, here⟩
    · obtain ⟨e, before, later, after, rfl, earlier, refused⟩ := ih (by simpa [here] using refused)
      refine ⟨e, document :: before, later, after, rfl, ?_, refused⟩
      rw [List.forall_mem_cons]
      exact ⟨not_exists.mp here, earlier⟩

/-- Without a refusal, just the digests are found that documents list the image for. -/
theorem exists_found (unrefused : Unrefused documents image) :
    ∃ found, settle required image documents = agree required image found ∧
      {digest | some digest ∈ found} = digests documents image ∧
      (none ∈ found ↔ ∃ document ∈ documents, ∀ digest, ¬ document.Lists image digest) := by
  obtain ⟨found, searched⟩ : ∃ found,
      List.Forall₂ (fun document result => search document.targets image = .ok result)
        documents found := by
    apply exists_forall₂
    intro document member
    obtain ⟨result, searched, -⟩ := exists_search (unrefused document member)
    exact ⟨result, searched⟩
  refine ⟨found, ?_, ?_, ?_⟩
  · rw [settle, mapM_eq_ok.mpr searched]
    rfl
  · ext digest
    constructor
    · intro member
      obtain ⟨document, present, has⟩ := exists_of_mem_right searched _ member
      exact ⟨document, present, search_eq_ok_some.mp has⟩
    · rintro ⟨document, present, listed⟩
      obtain ⟨result, member, has⟩ := exists_of_mem_left searched _ present
      rw [search_eq_ok_some.mpr listed, Except.ok.injEq] at has
      rwa [← has] at member
  · constructor
    · intro member
      obtain ⟨document, present, has⟩ := exists_of_mem_right searched _ member
      refine ⟨document, present, ?_⟩
      intro digest listed
      simp [search_eq_ok_some.mpr listed] at has
    · rintro ⟨document, present, unlisted⟩
      obtain ⟨result, member, has⟩ := exists_of_mem_left searched _ present
      cases result with
      | none => exact member
      | some digest => exact absurd (search_eq_ok_some.mp has) (unlisted digest)

theorem settle_agrees (unrefused : Unrefused documents image)
    (complete : Complete required documents image) :
    Agrees image (digests documents image) (settle required image documents) := by
  obtain ⟨found, same, members, absent⟩ := exists_found unrefused
  rw [same, ← members]
  apply agree_agrees
  intro demanded missing
  obtain ⟨document, member, unlisted⟩ := absent.mp missing
  obtain ⟨digest, listed⟩ := complete demanded document member
  exact unlisted digest listed

theorem settles_settle (required : List Role) (documents : List Document) (image : Reference) :
    Settles required documents image (settle required image documents) where
  refused := by
    intro refused
    obtain ⟨e, refusal⟩ := exists_firstRefusal refused
    exact ⟨e, refusal, settle_of_refusal refusal⟩
  incomplete := by
    intro unrefused incomplete
    obtain ⟨found, same, -, absent⟩ := exists_found unrefused
    rw [Complete] at incomplete
    push Not at incomplete
    obtain ⟨demanded, unlisted⟩ := incomplete
    rw [same, agree_incomplete demanded (absent.mpr unlisted)]
  agreed unrefused complete := (settle_agrees unrefused complete).eq_ok
  unlisted unrefused complete := (settle_agrees unrefused complete).eq_missing
  ambiguous unrefused complete := (settle_agrees unrefused complete).eq_ambiguous

end Documents

section Validation

variable {suite : Suite} {now : Instant} {strict : Bool} {fetch : Fetch} {root : TrustRoot}
  {required : List Role} {start : Base} {documents : List Document} {image : Reference}

/-- A validated chain of trust and the documents in it that decide. -/
structure Searched (suite : Suite) (now : Instant) (strict : Bool) (fetch : Fetch)
    (root : TrustRoot) (required : List Role) (start : Base) (documents : List Document) :
    Prop where
  walked : base suite now fetch root required = .ok start
  valid : ∀ role ∈ start.roles.getD [], (∀ document, fetch role = .ok document →
      document.validate suite now start.store = .ok ()) ∧
    (strict = true → ∃ document, fetch role = .ok document)
  deciding : Deciding fetch start.targets start.roles documents
  tagged : ∃ document ∈ documents, document.targets ≠ []

/-- These are all the chains of trust that a search for an image can start from. -/
theorem exists_searched (walked : base suite now fetch root required = .ok start)
    (image : Reference) {found : List (Role × Document)}
    {selected : List (List (String × Target))} :
    delegations suite now strict fetch start.store (start.roles.getD []) = .ok found ∧
        selectTargets start.targets start.roles found image = .ok selected ↔
      found = available fetch (start.roles.getD []) ∧
        ∃ documents, Searched suite now strict fetch root required start documents ∧
          selected = documents.map Document.targets := by
  rw [delegations_eq_ok]
  constructor
  · rintro ⟨⟨valid, rfl⟩, chosen⟩
    obtain ⟨documents, deciding, tagged, same⟩ := selectTargets_eq_ok.mp chosen
    exact ⟨rfl, documents, ⟨walked, valid, deciding, tagged⟩, same⟩
  · rintro ⟨rfl, documents, searched, rfl⟩
    refine ⟨⟨searched.valid, rfl⟩, selectTargets_eq_ok.mpr ?_⟩
    exact ⟨documents, searched.deciding, searched.tagged, rfl⟩

theorem validate_of_searched
    (searched : Searched suite now strict fetch root required start documents) :
    (validate suite now strict fetch root required image).result =
      settle required image documents := by
  obtain ⟨fetched, selected⟩ :=
    (exists_searched searched.walked image).mpr ⟨rfl, documents, searched, rfl⟩
  have looked : (documents.map Document.targets).mapM (search · image) =
      documents.mapM fun document => search document.targets image := List.mapM_map
  rw [validate, searched.walked, settle, ← looked]
  simp only [fetched]
  change (do
    let selected ← selectTargets start.targets start.roles _ image
    agree required image (← selected.mapM (search · image))) = _
  rw [selected]
  rfl

/-- The digest of an image is settled by the documents that decide. -/
theorem digest_settled
    (searched : Searched suite now strict fetch root required start documents)
    (image : Reference) :
    Settles required documents image
      (validate suite now strict fetch root required image).result := by
  rw [validate_of_searched searched]
  exact settles_settle required documents image

end Validation

end SignedAdmission.Chain

namespace SignedAdmission.Edition

open Chain

variable {edition : Edition} {answers : String → Except TrustError Json} {now : Instant}
  {strict : Bool} {required : List Role} {names : List String}

/-- The delegations of an edition decide wherever they are asked and published. -/
theorem Readable.exists_searched (readable : edition.Readable)
    (early : now.nanoseconds ≤ Publisher.expires.nanoseconds)
    (asked : consulted edition.targets required = some (names.map Role.delegation))
    (some_name : names ≠ [])
    (published : ∀ name ∈ names, name ∈ edition.names ∧
      (Role.delegation name).text ∈ edition.targets.delegations ∧
      answers name = .ok (edition.delegated name).envelope) :
    ∃ start, Searched edition.publisher.suite now strict (edition.served answers).fetch
      edition.publisher.key required start (names.map edition.delegated) := by
  let image : Reference := ⟨"", "", "", some edition.tag, none⟩
  have resolved : (validate edition.publisher.suite now strict (edition.served answers).fetch
      edition.publisher.key required image).result = .ok edition.releasedDigest :=
    readable.validate_delegated early asked some_name published rfl rfl
  obtain ⟨start, walked, valid, -⟩ := validate_eq_ok.mp resolved
  obtain ⟨base, fetched, -, -, chosen, -⟩ := base_eq_ok.mp walked
  obtain rfl := fetched.unique readable.fetched
  obtain ⟨first, rest, rfl⟩ := List.exists_cons_of_ne_nil some_name
  refine ⟨start, walked, valid, ?_, edition.delegated first, List.mem_cons_self, ?_⟩
  · rw [chosen, show consulted edition.documents.targets required = _ from asked]
    apply Deciding.delegated
    rw [List.forall₂_map_left_iff, List.forall₂_map_right_iff, List.forall₂_same]
    intro name member
    exact fetch_delegated (published name member).2.2
  · exact List.cons_ne_nil _ _

theorem digest_settled_of_usurped :
    ∃ start, Searched soleSigner.suite (.ofSeconds 0) false usurpedServed.fetch soleSigner.key
        [.delegation "alice", .releases] start (["alice", "releases"].map usurped.delegated) ∧
      Settles [.delegation "alice", .releases] (["alice", "releases"].map usurped.delegated)
        Publication.sampleImage
        (validate soleSigner.suite (.ofSeconds 0) false usurpedServed.fetch soleSigner.key
          [.delegation "alice", .releases] Publication.sampleImage).result := by
  have asked : consulted usurped.targets [.delegation "alice", .releases] =
      some (["alice", "releases"].map Role.delegation) :=
    consulted_of_required (by simp) _
  obtain ⟨start, searched⟩ : ∃ start, Searched soleSigner.suite (.ofSeconds 0) false
      usurpedServed.fetch soleSigner.key [.delegation "alice", .releases] start
      (["alice", "releases"].map usurped.delegated) := by
    refine readable_usurped.exists_searched (by decide) asked (by simp) ?_
    intro name member
    have declared : (Role.delegation name).text ∈
        ["alice", "releases"].map fun name => (Role.delegation name).text :=
      List.mem_map_of_mem member
    exact ⟨member, declared, rfl⟩
  exact ⟨start, searched, digest_settled searched Publication.sampleImage⟩

end SignedAdmission.Edition
