import SignedAdmission.Proofs.TrustData.Vouching
import SignedAdmission.TrustData.Chain

/-! The walk over the base documents. It succeeds exactly if each of them is vouched for, and leaves
a store that holds the pinned key, the keys that root and targets add to it, and the hashes of the
snapshot. -/
namespace SignedAdmission

open Checks

namespace Document

theorem hashes_of_role_root {document : Document} (h : document.WellFormed .root) :
    document.hashes = [] := by
  cases document with
  | mk role signed signatures entries expires body =>
    cases h.fits with
    | root keys => rfl

theorem keys_of_role_listing {role : Role} {document : Document} (h : document.WellFormed role)
    (listing : role = .snapshot ∨ role = .timestamp) : document.keys = [] := by
  cases document with
  | mk _ signed signatures entries expires body =>
    obtain rfl | rfl := listing
    · cases h.fits with
      | snapshot entries => rfl
    · cases h.fits with
      | timestamp entries => rfl

theorem hashes_of_role_targets {document : Document} (h : document.WellFormed .targets) :
    document.hashes = [] := by
  cases document with
  | mk role signed signatures entries expires body =>
    cases h.fits with
    | targets targets delegations => rfl

end Document

namespace Chain

structure BaseDocuments.WellFormed (documents : BaseDocuments) : Prop where
  root : documents.root.WellFormed .root
  snapshot : documents.snapshot.WellFormed .snapshot
  timestamp : documents.timestamp.WellFormed .timestamp
  targets : documents.targets.WellFormed .targets

/-- The keys that timestamp, snapshot and targets are signed with. -/
def baseRing (root : TrustRoot) (documents : BaseDocuments) : Keyring :=
  (Keyring.pinned root).extend documents.root

/-- The keys that delegations are signed with. -/
def delegationRing (root : TrustRoot) (documents : BaseDocuments) : Keyring :=
  (baseRing root documents).extend documents.targets

/-- Each base document is vouched for by the pinned key, or by documents that are. -/
structure Trusted (suite : Suite) (now : Instant) (root : TrustRoot) (documents : BaseDocuments) :
    Prop where
  rootSigned : ∀ entry ∈ documents.root.entries, documents.root.VerifiesUnder suite root entry
  timestampSigned : documents.timestamp.SignedUnder suite (baseRing root documents)
  snapshotSigned : documents.snapshot.SignedUnder suite (baseRing root documents)
  targetsSigned : documents.targets.SignedUnder suite (baseRing root documents)
  snapshotRecorded :
    documents.snapshot.RecordedAs suite documents.timestamp Role.snapshot.text
  rootRecorded : documents.root.RecordedAs suite documents.snapshot Role.root.text
  targetsRecorded : documents.targets.RecordedAs suite documents.snapshot Role.targets.text
  rootFresh : documents.root.Fresh now
  timestampFresh : documents.timestamp.Fresh now
  snapshotFresh : documents.snapshot.Fresh now
  targetsFresh : documents.targets.Fresh now

section Base

variable {suite : Suite} {now : Instant} {root : TrustRoot} {documents : BaseDocuments}
  {withRoot fromTimestamp fromSnapshot withSnapshot store : KeyStore}

/-- The stores that the keys and hashes of the base documents are collected in. -/
structure Merges (root : TrustRoot) (documents : BaseDocuments)
    (withRoot fromTimestamp fromSnapshot withSnapshot store : KeyStore) : Prop where
  root : (KeyStore.pinned root).merge documents.root = .ok withRoot
  timestamp : KeyStore.empty.merge documents.timestamp = .ok fromTimestamp
  snapshotAlone : KeyStore.empty.merge documents.snapshot = .ok fromSnapshot
  snapshot : withRoot.merge documents.snapshot = .ok withSnapshot
  targets : withSnapshot.merge documents.targets = .ok store

section Merged

variable (merges : Merges root documents withRoot fromTimestamp fromSnapshot withSnapshot store)
include merges

theorem Merges.ring_withRoot : withRoot.ring = baseRing root documents := by
  rw [KeyStore.ring_merge merges.root, KeyStore.ring_pinned, baseRing]

variable (formed : documents.WellFormed)
include formed

theorem Merges.ring_withSnapshot : withSnapshot.ring = baseRing root documents := by
  have unkeyed := Document.keys_of_role_listing formed.snapshot (.inl rfl)
  rw [KeyStore.ring_merge merges.snapshot, Keyring.extend_of_no_keys unkeyed,
    merges.ring_withRoot]

theorem Merges.ring_store : store.ring = delegationRing root documents := by
  rw [KeyStore.ring_merge merges.targets, merges.ring_withSnapshot formed, delegationRing]

theorem Merges.hashes_withSnapshot (name : String) :
    withSnapshot.hashes.lookup name =
      (documents.snapshot.hashes.lookup name).map MetaEntry.stored := by
  rw [KeyStore.lookup_hashes_merge merges.snapshot, KeyStore.lookup_hashes_merge merges.root,
    Document.hashes_of_role_root formed.root]
  rfl

theorem Merges.hashes_store (name : String) :
    store.hashes.lookup name = (documents.snapshot.hashes.lookup name).map MetaEntry.stored := by
  rw [KeyStore.lookup_hashes_merge merges.targets, merges.hashes_withSnapshot formed,
    Document.hashes_of_role_targets formed.targets]
  simp

end Merged

theorem lookup_hashes_merge_empty {document : Document}
    (merged : KeyStore.empty.merge document = .ok store) (name : String) :
    store.hashes.lookup name = (document.hashes.lookup name).map MetaEntry.stored := by
  rw [KeyStore.lookup_hashes_merge merged]
  rfl

/-- With a store that knows what a listing says, the hash check compares with that listing. -/
theorem validateHash_eq_recordedAs {role : Role} {document listing : Document}
    (formed : document.WellFormed role) (recorded : role ≠ .timestamp)
    (hashes : store.hashes.lookup role.text =
      (listing.hashes.lookup role.text).map MetaEntry.stored) :
    document.validateHash suite store = .ok () ↔
      document.RecordedAs suite listing role.text := by
  have other : document.role ≠ .timestamp := by rwa [formed.role_eq]
  rw [Document.validateHash_eq_ok other, formed.role_eq, hashes, Document.RecordedAs]
  simp only [Option.map_eq_some_iff]
  constructor
  · rintro ⟨-, ⟨entry, listed, rfl⟩, content⟩
    exact ⟨entry, listed, content⟩
  · rintro ⟨entry, listed, content⟩
    exact ⟨entry.stored, ⟨entry, listed, rfl⟩, content⟩

theorem validateSignature_eq_signedUnder {role : Role} {document : Document}
    (formed : document.WellFormed role) (keyed : role ≠ .root) {ring : Keyring}
    (keys : store.ring = ring) :
    document.validateSignature suite store = .ok () ↔ document.SignedUnder suite ring := by
  have other : document.role ≠ .root := by rwa [formed.role_eq]
  rw [Document.validateSignature_eq_ok other, keys]

theorem validateHash_timestamp {document : Document} (formed : document.WellFormed .timestamp) :
    document.validateHash suite store = .ok () := by
  rw [Document.validateHash, if_pos formed.role_eq]

/-- The checks of the base documents, in the order they are made. -/
theorem trusted_iff (formed : documents.WellFormed)
    (merges : Merges root documents withRoot fromTimestamp fromSnapshot withSnapshot store) :
    Trusted suite now root documents ↔
      documents.root.validateSignature suite (.pinned root) = .ok () ∧
      documents.root.validateExpiry now = .ok () ∧
      documents.timestamp.validate suite now withRoot = .ok () ∧
      documents.snapshot.validateSignature suite withRoot = .ok () ∧
      documents.snapshot.validateHash suite fromTimestamp = .ok () ∧
      documents.snapshot.validateExpiry now = .ok () ∧
      documents.root.validateHash suite fromSnapshot = .ok () ∧
      documents.targets.validate suite now withSnapshot = .ok () := by
  have withSnapshotRing := merges.ring_withSnapshot formed
  rw [Document.validate_eq_ok, Document.validate_eq_ok,
    Document.validateSignature_root_eq_ok formed.root.role_eq,
    validateSignature_eq_signedUnder formed.timestamp (by decide) merges.ring_withRoot,
    validateSignature_eq_signedUnder formed.snapshot (by decide) merges.ring_withRoot,
    validateSignature_eq_signedUnder formed.targets (by decide) withSnapshotRing,
    validateHash_eq_recordedAs formed.snapshot (by decide)
      (lookup_hashes_merge_empty merges.timestamp _),
    validateHash_eq_recordedAs formed.root (by decide)
      (lookup_hashes_merge_empty merges.snapshotAlone _),
    validateHash_eq_recordedAs formed.targets (by decide) (merges.hashes_withSnapshot formed _),
    Document.validateExpiry_eq_ok, Document.validateExpiry_eq_ok]
  simp only [validateHash_timestamp formed.timestamp, and_true]
  constructor
  · rintro ⟨rootSigned, timestampSigned, snapshotSigned, targetsSigned, snapshotRecorded,
      rootRecorded, targetsRecorded, rootFresh, timestampFresh, snapshotFresh, targetsFresh⟩
    exact ⟨rootSigned, rootFresh, ⟨timestampSigned, timestampFresh⟩, snapshotSigned,
      snapshotRecorded, snapshotFresh, rootRecorded, targetsSigned, targetsFresh, targetsRecorded⟩
  · rintro ⟨rootSigned, rootFresh, ⟨timestampSigned, timestampFresh⟩, snapshotSigned,
      snapshotRecorded, snapshotFresh, rootRecorded, targetsSigned, targetsFresh, targetsRecorded⟩
    exact ⟨rootSigned, timestampSigned, snapshotSigned, targetsSigned, snapshotRecorded,
      rootRecorded, targetsRecorded, rootFresh, timestampFresh, snapshotFresh, targetsFresh⟩

theorem validateBase_eq_ok (formed : documents.WellFormed) :
    validateBase suite now root documents = .ok store ↔
      Trusted suite now root documents ∧
        ∃ withRoot fromTimestamp fromSnapshot withSnapshot,
          Merges root documents withRoot fromTimestamp fromSnapshot withSnapshot store := by
  simp only [validateBase, bind_eq_ok, exists_unit_eq_ok]
  constructor
  · rintro ⟨rootSigned, rootFresh, withRoot, merged₁, timestamp, snapshotSigned, fromTimestamp,
      merged₂, snapshotHash, snapshotFresh, fromSnapshot, merged₃, rootHash, withSnapshot, merged₄,
      targets, merged₅⟩
    have merges : Merges root documents withRoot fromTimestamp fromSnapshot withSnapshot store :=
      ⟨merged₁, merged₂, merged₃, merged₄, merged₅⟩
    refine ⟨(trusted_iff formed merges).mpr ?_, _, _, _, _, merges⟩
    exact ⟨rootSigned, rootFresh, timestamp, snapshotSigned, snapshotHash, snapshotFresh, rootHash,
      targets⟩
  · rintro ⟨trusted, withRoot, fromTimestamp, fromSnapshot, withSnapshot, merges⟩
    obtain ⟨rootSigned, rootFresh, timestamp, snapshotSigned, snapshotHash, snapshotFresh, rootHash,
      targets⟩ := (trusted_iff formed merges).mp trusted
    exact ⟨rootSigned, rootFresh, withRoot, merges.root, timestamp, snapshotSigned, fromTimestamp,
      merges.timestamp, snapshotHash, snapshotFresh, fromSnapshot, merges.snapshotAlone, rootHash,
      withSnapshot, merges.snapshot, targets, merges.targets⟩

end Base

section Roles

/-- The delegations that are consulted, if any. -/
def consulted (targets : Document) (required : List Role) : Option (List Role) :=
  if targets.hasDelegations || !required.isEmpty then some (effectiveRoles required) else none

theorem effectiveRoles_ne_nil (required : List Role) : effectiveRoles required ≠ [] := by
  cases required <;> simp [effectiveRoles]

theorem consulted_of_required {required : List Role} (h : required ≠ []) (targets : Document) :
    consulted targets required = some required := by
  simp [consulted, effectiveRoles, h]

theorem consulted_default {targets : Document} (h : targets.hasDelegations = true) :
    consulted targets [] = some [.releases] := by
  simp [consulted, effectiveRoles, h]

theorem checkDeclared_eq_ok {roles : List Role} {declared : List String} (h : roles ≠ []) :
    checkDeclared roles declared = .ok () ↔ ∀ role ∈ roles, role.text ∈ declared := by
  obtain ⟨role, member⟩ := List.exists_mem_of_ne_nil roles h
  rw [checkDeclared]
  split
  case isTrue undelegated =>
    rw [List.isEmpty_iff] at undelegated
    subst undelegated
    simp only [reduceCtorEq, List.not_mem_nil, false_iff]
    exact fun all => all role member
  case isFalse =>
    simp [List.isEmpty_iff, List.filter_eq_nil_iff]

end Roles

section Steps

variable {suite : Suite} {now : Instant} {fetch : Fetch} {root : TrustRoot} {required : List Role}
  {documents : BaseDocuments}

structure Fetched (fetch : Fetch) (documents : BaseDocuments) : Prop where
  root : fetch .root = .ok documents.root
  snapshot : fetch .snapshot = .ok documents.snapshot
  timestamp : fetch .timestamp = .ok documents.timestamp
  targets : fetch .targets = .ok documents.targets

theorem fetchBase_eq_ok : fetchBase fetch = .ok documents ↔ Fetched fetch documents := by
  simp only [fetchBase, bind_eq_ok, pure_eq_ok]
  constructor
  · rintro ⟨root, fetched₁, snapshot, fetched₂, timestamp, fetched₃, targets, fetched₄, rfl⟩
    exact ⟨fetched₁, fetched₂, fetched₃, fetched₄⟩
  · rintro ⟨fetched₁, fetched₂, fetched₃, fetched₄⟩
    exact ⟨_, fetched₁, _, fetched₂, _, fetched₃, _, fetched₄, rfl⟩

/-- The walk starts the search at valid base documents that declare what is to be consulted. -/
theorem base_eq_ok {start : Base} :
    base suite now fetch root required = .ok start ↔
      ∃ documents, Fetched fetch documents ∧
        validateBase suite now root documents = .ok start.store ∧
        start.targets = documents.targets ∧
        start.roles = consulted documents.targets required ∧
        ∀ role ∈ start.roles.getD [], role.text ∈ documents.targets.delegations := by
  simp only [base, bind_eq_ok, fetchBase_eq_ok]
  refine exists_congr fun documents => and_congr_right fun _ => ?_
  constructor
  · rintro ⟨store, valid, h⟩
    split at h
    case isTrue delegating =>
      obtain ⟨⟨⟩, declared, rfl⟩ := by simpa only [bind_eq_ok, pure_eq_ok] using h
      rw [checkDeclared_eq_ok (effectiveRoles_ne_nil required)] at declared
      exact ⟨valid, rfl, by rw [consulted, if_pos delegating], declared⟩
    case isFalse undelegated =>
      cases h
      exact ⟨valid, rfl, by rw [consulted, if_neg undelegated], by simp⟩
  · obtain ⟨targets, store, roles⟩ := start
    rintro ⟨valid, rfl, rfl, declared⟩
    refine ⟨store, valid, ?_⟩
    rw [consulted]
    split
    case isTrue delegating =>
      rw [consulted, if_pos delegating] at declared
      rw [(checkDeclared_eq_ok (effectiveRoles_ne_nil required)).mpr declared]
      rfl
    case isFalse => rfl

end Steps

end Chain

end SignedAdmission
