import SignedAdmission.Json.Pointer
import SignedAdmission.Proofs.TrustData.ChainOfTrust

/-! Who may sign for a delegation: everyone whose key root or targets list, and the holder of the
pinned key. All delegations are held against the same keys. -/
namespace SignedAdmission

open Checks Json

/-- A role of a targets document is read as if it had nothing but its name. -/
theorem Delegations.decodeRole_filter (fields : Fields) :
    decodeRole (.object (fields.filter fun field => field.1 = "name")) =
      decodeRole (.object fields) := by
  have known (key : String) :
      (([{ name := "name", decode := Decoder.string : RecordField String }.rule].find?
        (·.names.contains key)).isSome) = decide (key = "name") := by
    by_cases same : key = "name" <;> simp [RecordField.rule, same]
  simp only [decodeRole, Record.slots, ← known, Record.visit_filter]

namespace Keyring

/-- A key is new in an extended ring if its id had none before, and if the document that lists it is
not signed under that id. -/
theorem extend_eq_some {ring : Keyring} {document : Document} {id : String} {key : TrustRoot} :
    ring.extend document id = some key ↔
      ring id = some key ∨
        ring id = none ∧ id ∉ document.keyIds ∧
          ∃ listed, document.keys.lookup id = some listed ∧ listed.root? = some key := by
  rw [extend, Option.or_eq_some_iff]
  split <;> simp [*, Option.bind_eq_some_iff]

end Keyring

namespace Chain

/-- Where a key comes from that delegations are held against. -/
inductive Origin (root : TrustRoot) (documents : BaseDocuments) : String → TrustRoot → Prop
  | pinned : Origin root documents KeyStore.pinnedId root
  /-- Root lists the key, and is not itself signed under its id. -/
  | root {id listed key} (unpinned : id ≠ KeyStore.pinnedId)
    (unsigned : id ∉ documents.root.keyIds)
    (found : documents.root.keys.lookup id = some listed) (loaded : listed.root? = some key) :
    Origin root documents id key
  /-- Targets lists the key for some delegation, and is not itself signed under its id. -/
  | targets {id listed key} (fresh : baseRing root documents id = none)
    (unsigned : id ∉ documents.targets.keyIds)
    (found : documents.targets.keys.lookup id = some listed) (loaded : listed.root? = some key) :
    Origin root documents id key

section Rings

variable {root key : TrustRoot} {documents : BaseDocuments} {id : String}

theorem pinned_eq_some :
    Keyring.pinned root id = some key ↔ id = KeyStore.pinnedId ∧ key = root := by
  rw [Keyring.pinned]
  split <;> simp [*, eq_comm]

theorem pinned_eq_none : Keyring.pinned root id = none ↔ id ≠ KeyStore.pinnedId := by
  simp [Keyring.pinned]

theorem baseRing_eq_some :
    baseRing root documents id = some key ↔
      id = KeyStore.pinnedId ∧ key = root ∨
        id ≠ KeyStore.pinnedId ∧ id ∉ documents.root.keyIds ∧
          ∃ listed, documents.root.keys.lookup id = some listed ∧ listed.root? = some key := by
  rw [baseRing, Keyring.extend_eq_some, pinned_eq_some, pinned_eq_none]

theorem delegationRing_eq_some :
    delegationRing root documents id = some key ↔ Origin root documents id key := by
  rw [delegationRing, Keyring.extend_eq_some, baseRing_eq_some]
  constructor
  · rintro ((⟨rfl, rfl⟩ | ⟨unpinned, unsigned, listed, found, loaded⟩) |
      ⟨fresh, unsigned, listed, found, loaded⟩)
    · exact .pinned
    · exact .root unpinned unsigned found loaded
    · exact .targets fresh unsigned found loaded
  · intro origin
    cases origin with
    | pinned => exact .inl (.inl ⟨rfl, rfl⟩)
    | root unpinned unsigned found loaded =>
      exact .inl (.inr ⟨unpinned, unsigned, _, found, loaded⟩)
    | targets fresh unsigned found loaded => exact .inr ⟨fresh, unsigned, _, found, loaded⟩

end Rings

/-- Every signature verifies under the key of the id that it names, whoever that key is listed
for. -/
def SignedByAny (suite : Suite) (root : TrustRoot) (documents : BaseDocuments)
    (document : Document) : Prop :=
  ∀ entry ∈ document.entries, ∃ key, Origin root documents entry.keyId key ∧
    document.VerifiesUnder suite key entry

theorem signedUnder_delegationRing {suite : Suite} {root : TrustRoot} {documents : BaseDocuments}
    {document : Document} :
    document.SignedUnder suite (delegationRing root documents) ↔
      SignedByAny suite root documents document := by
  simp only [Document.SignedUnder, delegationRing_eq_some, SignedByAny]

theorem Fetched.unique {fetch : Fetch} {a b : BaseDocuments} (first : Fetched fetch a)
    (second : Fetched fetch b) : a = b := by
  have root := Except.ok.inj (first.root.symm.trans second.root)
  have snapshot := Except.ok.inj (first.snapshot.symm.trans second.snapshot)
  have timestamp := Except.ok.inj (first.timestamp.symm.trans second.timestamp)
  have targets := Except.ok.inj (first.targets.symm.trans second.targets)
  cases a
  cases b
  simp_all

section Signers

variable {suite : Suite} {now : Instant} {strict : Bool} {served : Served} {root : TrustRoot}
  {required : List Role} {image : Reference} {digest : String}

/-- Every delegation document behind a digest is signed, under keys that the base documents vouch
for. The walk leaves one store for all delegations, which accepts any of those keys for any of
them. -/
theorem delegation_signers
    (h : (validate suite now strict served.fetch root required image).result = .ok digest) :
    ∃ documents, ChainOfTrust suite now served root required documents ∧
      (∀ name, .delegation name ∈ (consulted documents.targets required).getD [] →
        ∀ document, served.fetch (.delegation name) = .ok document →
          document.entries ≠ [] ∧ SignedByAny suite root documents document) ∧
      ∃ start, base suite now served.fetch root required = .ok start ∧
        ∀ name document, document.WellFormed (.delegation name) →
          (document.validate suite now start.store = .ok () ↔
            SignedByAny suite root documents document ∧ document.Fresh now ∧
              document.RecordedAs suite documents.snapshot (Role.delegation name).text) := by
  obtain ⟨start, walked, -⟩ := validate_eq_ok.mp h
  obtain ⟨documents, fetched, -, -, -, -, ring, hashes⟩ := base_trusted walked
  obtain ⟨_, _, _, chain, -⟩ := exists_decision h
  obtain rfl := fetched.unique chain.fetched
  refine ⟨documents, chain, fun name asked document found => ?_, start, walked,
    fun name document formed => ?_⟩
  · have delegated := chain.delegated name asked document found
    exact ⟨delegated.formed.signed, signedUnder_delegationRing.mp delegated.signed⟩
  · rw [validate_delegation formed ring hashes, signedUnder_delegationRing]

theorem delegation_signers_of_sampleServed :
    Publication.sampleResult Publication.sampleServed [] = .ok Publication.sample.releasedDigest ∧
      ∃ documents, ChainOfTrust Publication.sample.publisher.suite (.ofSeconds 0)
          Publication.sampleServed Publication.sample.publisher.key [] documents ∧
        (∀ name, .delegation name ∈ (consulted documents.targets []).getD [] →
          ∀ document, Publication.sampleServed.fetch (.delegation name) = .ok document →
            document.entries ≠ [] ∧ SignedByAny Publication.sample.publisher.suite
              Publication.sample.publisher.key documents document) ∧
        ∃ start, base Publication.sample.publisher.suite (.ofSeconds 0)
            Publication.sampleServed.fetch Publication.sample.publisher.key [] = .ok start ∧
          ∀ name document, document.WellFormed (.delegation name) →
            (document.validate Publication.sample.publisher.suite (.ofSeconds 0) start.store =
                .ok () ↔
              SignedByAny Publication.sample.publisher.suite Publication.sample.publisher.key
                  documents document ∧
                document.Fresh (.ofSeconds 0) ∧
                document.RecordedAs Publication.sample.publisher.suite documents.snapshot
                  (Role.delegation name).text) := by
  have resolved := Publication.sampleResult_published (.inl rfl)
  refine ⟨resolved, ?_⟩
  rw [Publication.sampleResult] at resolved
  exact delegation_signers resolved

end Signers

end Chain

/-- The ids of the keys that the role of a delegation names in the payload of a targets document. -/
def Document.signerIds (document : Document) (name : String) : List String :=
  let roles := ((document.signed.at? ["delegations", "roles"]).bind array?).getD []
  let role := roles.find? fun role =>
    (role.field? "name").bind string? = some (Role.delegation name).text
  (((role.bind (field? "keyids")).bind array?).getD []).filterMap string?

namespace Publisher

/-- Delegations whose roles name one key each, under the name of the delegation. -/
def separateDelegations (keys : List (String × String)) : Delegations where
  keys := keys.map fun (name, text) => (name, ⟨"ecdsa", text⟩)
  roles := keys.map fun (name, _) => (Role.delegation name).text

def separateDelegationsJson (keys : List (String × String)) : Json :=
  .object [
    ("keys", .object (keys.map fun (name, text) =>
      (name, .object [("keytype", .string "ecdsa"),
        ("keyval", .object [("public", .string text)])]))),
    ("roles", .array (keys.map fun (name, _) =>
      .object [("keyids", .array [.string name]),
        ("name", .string (Role.delegation name).text)]))]

theorem decode_separateDelegations {keys : List (String × String)}
    (sorted : keys.Pairwise fun a b => a.1 ≤ b.1) :
    Delegations.decode (separateDelegationsJson keys) = .ok (separateDelegations keys) := by
  refine decode_delegations (Decoder.dictionary_of_sorted ?_ (List.pairwise_map.mpr sorted)) ?_
  · rw [separateDelegations, List.forall₂_map_left_iff, List.forall₂_map_right_iff]
    exact List.forall₂_same.mpr fun entry _ => ⟨rfl, rfl⟩
  · rw [separateDelegations, Decoder.list, mapM_eq_ok, List.forall₂_map_left_iff,
      List.forall₂_map_right_iff]
    refine List.forall₂_same.mpr fun entry _ => ?_
    rw [← Delegations.decodeRole_filter]
    rfl

end Publisher

namespace Edition

open Chain Publisher

def basePoint : P256.Point := ⟨P256.baseX, P256.baseY, Publication.isOnCurve_base⟩

def isBasePoint : TrustRoot → Bool
  | .ecdsa point => point = basePoint
  | _ => false

/-- A publisher whose key alone verifies anything. -/
def soleSigner : Publisher where
  suite :=
    { hash := Sha256.digest
      verify := fun key message signature => isBasePoint key && message == signature }
  key := .ecdsa basePoint
  sign := id
  honest := by simp [isBasePoint]

def mirroredPoint : P256.Point := ⟨P256.baseX, P256.p - P256.baseY, by decide +kernel⟩

def doubledPoint : P256.Point where
  x := 0x7cf27b188d034f7e8a52380304b51ac3c08969e277f21b35a60b48fc47669978
  y := 0x07775510db8ed040293d9ac69f7430dbba7dade63ce982299e04b79d227873d1
  onCurve := by decide +kernel

/-- Keys that verify nothing the sole signer signs. -/
def otherKeys : List (String × String) :=
  [("alice", TrustRoot.text (.ecdsa mirroredPoint)),
    ("releases", TrustRoot.text (.ecdsa doubledPoint))]

/-- Delegations that are each given a key of their own, and are both signed with another one. -/
def usurped : Edition where
  publisher := soleSigner
  fields := tagFields "v1" (List.replicate 32 0xd2) ++
    [("delegations", separateDelegationsJson otherKeys)]
  body := .targets [("v1", targetOf (List.replicate 32 0xd2))] (separateDelegations otherKeys)
  names := ["alice", "releases"]
  tag := "v1"
  released := List.replicate 32 0xd1

def usurpedServed : Served :=
  usurped.served fun name => .ok (usurped.delegated name).envelope

theorem refused_otherKeys :
    ∀ entry ∈ (separateDelegations otherKeys).keys,
      entry.2.root?.map isBasePoint = some false := by
  decide +kernel

theorem readable_usurped : usurped.Readable where
  others := by simp [usurped, tagFields]
  decoded := decodeTargets_delegating _ _ (decode_separateDelegations (by decide))
  sorted := by
    have sorted : [Role.root.text, Role.targets.text, (Role.delegation "alice").text,
        Role.releases.text].Pairwise (· ≤ ·) := by
      decide
    exact sorted
  loadable := by
    intro entry member
    have refused := refused_otherKeys entry member
    exact .inr (by rw [← Option.isSome_map, refused]; rfl)

theorem isBasePoint_of_verifiesUnder {document : Document} {key : TrustRoot}
    {entry : SignatureEntry} (h : document.VerifiesUnder soleSigner.suite key entry) :
    isBasePoint key = true := by
  obtain ⟨signature, -, verified⟩ := h
  exact (Bool.and_eq_true_iff.mp verified).1

/-- Both delegations stand behind a digest although nobody whose key targets names for either of
them has signed for it. -/
theorem usurped_resolved :
    (validate soleSigner.suite (.ofSeconds 0) false usurpedServed.fetch soleSigner.key
        [.delegation "alice", .releases] Publication.sampleImage).result =
          .ok usurped.releasedDigest ∧
      Fetched usurpedServed.fetch usurped.documents ∧
      ∀ name ∈ ["alice", "releases"],
        usurped.targets.signerIds name = [name] ∧ (usurped.targets.keys.lookup name).isSome = true ∧
        ∃ document, usurpedServed.fetch (.delegation name) = .ok document ∧
          ∀ entry ∈ document.entries, ∀ id ∈ usurped.targets.signerIds name,
            entry.keyId ≠ id ∧
            ∀ listed key, usurped.targets.keys.lookup id = some listed → listed.root? = some key →
              ¬ document.VerifiesUnder soleSigner.suite key entry := by
  refine ⟨?_, readable_usurped.fetched, fun name member => ?_⟩
  · have asked : consulted usurped.targets [.delegation "alice", .releases] =
        some (["alice", "releases"].map Role.delegation) :=
      consulted_of_required (by simp) _
    refine readable_usurped.validate_delegated (by decide) asked (by simp) ?_ rfl rfl
    intro name member
    have declared : (Role.delegation name).text ∈
        ["alice", "releases"].map fun name => (Role.delegation name).text :=
      List.mem_map_of_mem member
    exact ⟨member, declared, rfl⟩
  · have named : usurped.targets.signerIds name = [name] ∧
        (usurped.targets.keys.lookup name).isSome = true ∧ KeyStore.pinnedId ≠ name := by
      revert name
      decide +kernel
    obtain ⟨named, listed, unpinned⟩ := named
    refine ⟨named, listed, _, fetch_delegated rfl, fun entry signs id signer => ?_⟩
    obtain rfl : id = name := by simpa [named] using signer
    obtain rfl : entry = soleSigner.signature _ := List.mem_singleton.mp signs
    refine ⟨unpinned, fun listed key found loaded verified => ?_⟩
    obtain ⟨before, after, split, -⟩ := List.lookup_eq_some_iff.mp found
    have member : (id, listed) ∈ usurped.targets.keys := by simp [split]
    have refused := refused_otherKeys (id, listed) member
    have accepted := isBasePoint_of_verifiesUnder verified
    simp [loaded, accepted] at refused

end Edition

end SignedAdmission
