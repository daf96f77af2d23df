import SignedAdmission.Proofs.Json.Decoding
import SignedAdmission.Proofs.Role.Naming
import SignedAdmission.Proofs.TrustData.Served

/-! Trust data as one publisher writes it, with one key that signs all documents. What is written is
read back, and the whole edition is valid: an image with the tag that its delegations list is found
to be signed for their digest. -/
namespace SignedAdmission

open Checks Json

/-- Someone whose signatures verify under a key. -/
structure Publisher where
  suite : Suite
  key : TrustRoot
  sign : List UInt8 → List UInt8
  honest : ∀ message, suite.verify key message (sign message) = true

namespace Publisher

def expiry : String := "2099-01-01T00:00:00Z"

def expires : Instant := ⟨4070908800 * 1000000000⟩

theorem ofText?_expiry : Instant.ofText? expiry = some expires := by
  decide +kernel

/-- Bytes in base64. -/
def text (bytes : List UInt8) : String :=
  String.ofList (Base64.encode bytes)

@[simp]
theorem decode?_text (bytes : List UInt8) :
    Base64.decode? (text bytes).toList = some bytes := by
  rw [text, String.toList_ofList, Base64.decode?_encode]

def payload (fields : Fields) : Json :=
  .object (("expires", .string expiry) :: fields)

variable (publisher : Publisher)

def signature (fields : Fields) : SignatureEntry :=
  ⟨KeyStore.pinnedId, text (publisher.sign (payload fields).bytes)⟩

def signatureJson (fields : Fields) : Json :=
  .object [("keyid", .string (publisher.signature fields).keyId),
    ("sig", .string (publisher.signature fields).signature)]

/-- A document that is signed under the id of the pinned key. -/
def document (role : Role) (fields : Fields) (body : Body) : Document where
  role := role
  signed := payload fields
  signatures := [publisher.signatureJson fields]
  entries := [publisher.signature fields]
  expires := expires
  body := body

end Publisher

/-- A document as it is served. -/
def Document.envelope (document : Document) : Json :=
  .object [("signed", document.signed), ("signatures", .array document.signatures)]

namespace Publisher

variable {publisher : Publisher} {role : Role} {fields : Fields} {body : Body}

theorem decodeEnvelope_document :
    Document.decodeEnvelope (publisher.document role fields body).envelope =
      .ok (payload fields, [publisher.signatureJson fields]) := by
  rfl

theorem decodeExpiry_payload (others : ∀ field ∈ fields, field.1 ≠ "expires") :
    Document.decodeExpiry (payload fields) = .ok expiry := by
  have visited (slots : Slots) :
      Record.visit [({ name := "expires", decode := Decoder.string } : RecordField String).rule]
        fields slots = .ok slots :=
    Record.visit_unknown fun field member => by
      simp [RecordField.rule, others field member]
  simp only [RecordField.rule] at visited
  simp [Document.decodeExpiry, payload, Record.slots, Record.visit, RecordField.rule,
    RecordField.get, visited]

/-- A document is read as it was written. -/
theorem ofJson_document (others : ∀ field ∈ fields, field.1 ≠ "expires")
    (decoded : Body.decode role (payload fields) = .ok body) :
    Document.ofJson role (publisher.document role fields body).envelope =
      .ok (publisher.document role fields body) := by
  simp only [Document.ofJson, bind_eq_ok, mapError_eq_ok]
  refine ⟨_, decodeEnvelope_document, [publisher.signature fields], rfl, ?_⟩
  simp only [List.isEmpty_cons, Bool.false_eq_true, if_false, bind_eq_ok, mapError_eq_ok]
  refine ⟨expiry, decodeExpiry_payload others, ?_⟩
  rw [ofText?_expiry]
  simp only [bind_eq_ok, mapError_eq_ok, pure_eq_ok]
  exact ⟨expires, rfl, body, decoded, rfl⟩

/-- A hash and a length, as documents write them about images and about other documents. -/
def record (hash : List UInt8) (length : Nat) : Json :=
  .object [("hashes", .object [(sha256Name, .string (text hash))]), ("length", .ofNat length)]

theorem decode_hashes (hash : List UInt8) :
    Decoder.dictionary Decoder.string (.object [(sha256Name, .string (text hash))]) =
      .ok [(sha256Name, text hash)] :=
  Decoder.dictionary_of_sorted (.cons ⟨rfl, rfl⟩ .nil) (List.pairwise_singleton ..)

theorem decode_entry (hash : List UInt8) (length : Nat) :
    MetaEntry.decode (record hash length) = .ok ⟨[(sha256Name, text hash)], length⟩ := by
  simp [MetaEntry.decode, record, Record.slots, Record.visit, RecordField.rule, RecordField.get,
    lengthField, List.lookup_cons, decode_hashes]

theorem decode_target (hash : List UInt8) (length : Nat) :
    Target.decode (record hash length) = .ok ⟨[(sha256Name, text hash)], length⟩ := by
  simp [Target.decode, record, Record.slots, Record.visit, RecordField.rule, RecordField.get,
    lengthField, List.lookup_cons, decode_hashes]

theorem decodeRoot_payload : Body.decodeRoot (payload [("keys", .object [])]) = .ok (.root []) := by
  have keys : Decoder.dictionary ListedKey.decode (.object []) = .ok [] :=
    Decoder.dictionary_of_sorted .nil .nil
  simp [Body.decodeRoot, payload, Record.slots, Record.visit, RecordField.rule, RecordField.get,
    keys]

section Listings

/-- What a listing says about a document. -/
def entryOf (suite : Suite) (document : Document) : MetaEntry :=
  ⟨[(sha256Name, text (suite.hash document.content))], document.content.length⟩

/-- What a listing says about documents that are published under some names. -/
def listed (suite : Suite) (documents : List (String × Document)) : List (String × MetaEntry) :=
  documents.map fun (name, document) => (name, entryOf suite document)

def listingFields (suite : Suite) (documents : List (String × Document)) : Fields :=
  [("meta", .object (documents.map fun (name, document) =>
    (name, record (suite.hash document.content) document.content.length)))]

theorem lookup_listed (suite : Suite) (documents : List (String × Document)) (name : String) :
    (listed suite documents).lookup name = (documents.lookup name).map (entryOf suite) := by
  induction documents with
  | nil => rfl
  | cons entry rest ih =>
    rw [listed] at ih
    rw [listed, List.map_cons, lookup_cons_eq_ite, lookup_cons_eq_ite, ih]
    split <;> rfl

theorem decodeListing_payload {suite : Suite} {documents : List (String × Document)}
    (sorted : documents.Pairwise fun a b => a.1 ≤ b.1) :
    Body.decodeListing (payload (listingFields suite documents)) =
      .ok (.listing (listed suite documents)) := by
  have read : Decoder.dictionary MetaEntry.decode (.object (documents.map fun (name, document) =>
      (name, record (suite.hash document.content) document.content.length))) =
        .ok (listed suite documents) := by
    refine Decoder.dictionary_of_sorted ?_ (List.pairwise_map.mpr sorted)
    rw [listed, List.forall₂_map_left_iff, List.forall₂_map_right_iff]
    exact List.forall₂_same.mpr fun entry _ => ⟨rfl, decode_entry ..⟩
  simp [Body.decodeListing, payload, listingFields, Record.slots, Record.visit, RecordField.rule,
    RecordField.get, read]

end Listings

section Tags

def targetOf (digest : List UInt8) : Target := ⟨[(sha256Name, text digest)], 0⟩

/-- One tag with the digest it is signed for. -/
def tagFields (tag : String) (digest : List UInt8) : Fields :=
  [("targets", .object [(tag, record digest 0)])]

theorem decode_targets (tag : String) (digest : List UInt8) :
    Decoder.dictionary Target.decode (.object [(tag, record digest 0)]) =
      .ok [(tag, targetOf digest)] :=
  Decoder.dictionary_of_sorted (.cons ⟨rfl, decode_target ..⟩ .nil) (List.pairwise_singleton ..)

theorem decodeTargets_tag (tag : String) (digest : List UInt8) :
    Body.decodeTargets (payload (tagFields tag digest)) =
      .ok (.targets [(tag, targetOf digest)] ⟨[], []⟩) := by
  simp [Body.decodeTargets, payload, tagFields, Record.slots, Record.visit, RecordField.rule,
    RecordField.get, List.lookup_cons, decode_targets]

/-- Keys and names of delegations are read separately. -/
theorem decode_delegations {keys roles : Json} {delegations : Delegations}
    (keysRead : Decoder.dictionary ListedKey.decode keys = .ok delegations.keys)
    (rolesRead : Decoder.list Delegations.decodeRole roles = .ok delegations.roles) :
    Delegations.decode (.object [("keys", keys), ("roles", roles)]) = .ok delegations := by
  simp [Delegations.decode, Record.slots, Record.visit, RecordField.rule, RecordField.get,
    List.lookup_cons, keysRead, rolesRead]

theorem decodeTargets_delegating (tag : String) (digest : List UInt8) {value : Json}
    {delegations : Delegations} (read : Delegations.decode value = .ok delegations) :
    Body.decodeTargets (payload (tagFields tag digest ++ [("delegations", value)])) =
      .ok (.targets [(tag, targetOf digest)] delegations) := by
  simp [Body.decodeTargets, payload, tagFields, Record.slots, Record.visit, RecordField.rule,
    RecordField.get, List.lookup_cons, decode_targets, read]

end Tags

section Checks

variable {now : Instant}

theorem verifiesUnder_document :
    (publisher.document role fields body).VerifiesUnder publisher.suite publisher.key
      (publisher.signature fields) :=
  ⟨_, decode?_text _, publisher.honest _⟩

theorem signedUnder_document {ring : Keyring}
    (pinned : ring KeyStore.pinnedId = some publisher.key) :
    (publisher.document role fields body).SignedUnder publisher.suite ring := by
  intro entry member
  obtain rfl : entry = publisher.signature fields := by simpa [document] using member
  exact ⟨publisher.key, pinned, verifiesUnder_document⟩

theorem hasContent_stored (suite : Suite) (document : Document) :
    document.HasContent suite (entryOf suite document).stored := by
  simp [Document.HasContent, MetaEntry.stored, entryOf]

end Checks

end Publisher

/-- In a list of pairs whose keys tell the items apart, each item has its own value. -/
theorem lookup_map_of_mem {α β γ : Type} [BEq β] [LawfulBEq β] [DecidableEq β] {key : α → β}
    (value : α → γ) (injective : ∀ a b, key a = key b → a = b) {items : List α} {item : α}
    (member : item ∈ items) :
    (items.map fun a => (key a, value a)).lookup (key item) = some (value item) := by
  induction items with
  | nil => contradiction
  | cons first rest ih =>
    rw [List.map_cons, lookup_cons_eq_ite]
    split
    case isTrue same => rw [injective _ _ same]
    case isFalse other =>
      have rest_member := (List.mem_cons.mp member).resolve_left fun same => other (by rw [same])
      exact ih rest_member

/-- A targets document, documents of delegations that all list one tag, and the base documents
around them. -/
structure Edition where
  publisher : Publisher
  fields : Fields
  body : Body
  names : List String
  tag : String
  released : List UInt8

namespace Edition

open Chain Publisher

variable (edition : Edition)

def root : Document :=
  edition.publisher.document .root [("keys", .object [])] (.root [])

def targets : Document :=
  edition.publisher.document .targets edition.fields edition.body

/-- The document of a delegation. -/
def delegated (name : String) : Document :=
  edition.publisher.document (.delegation name) (tagFields edition.tag edition.released)
    (.targets [(edition.tag, targetOf edition.released)] ⟨[], []⟩)

def listing (role : Role) (documents : List (String × Document)) : Document :=
  edition.publisher.document role (listingFields edition.publisher.suite documents)
    (.listing (listed edition.publisher.suite documents))

/-- All documents that the snapshot records. -/
def recorded : List (String × Document) :=
  (Role.root.text, edition.root) :: (Role.targets.text, edition.targets) ::
    edition.names.map fun name => ((Role.delegation name).text, edition.delegated name)

def snapshot : Document :=
  edition.listing .snapshot edition.recorded

def timestamp : Document :=
  edition.listing .timestamp [(Role.snapshot.text, edition.snapshot)]

def documents : BaseDocuments :=
  ⟨edition.root, edition.snapshot, edition.timestamp, edition.targets⟩

def releasedDigest : String :=
  String.ofList (Hex.encode edition.released)

/-- The edition with some answers in place of the documents of delegations. -/
def served (answers : String → Except TrustError Json) : Served
  | .root => .ok edition.root.envelope
  | .snapshot => .ok edition.snapshot.envelope
  | .timestamp => .ok edition.timestamp.envelope
  | .targets => .ok edition.targets.envelope
  | .delegation name => answers name

/-- What is written can be read back, and the keys that the targets document lists can be loaded. -/
structure Readable : Prop where
  others : ∀ field ∈ edition.fields, field.1 ≠ "expires"
  decoded : Body.decodeTargets (payload edition.fields) = .ok edition.body
  sorted : (edition.recorded.map Prod.fst).Pairwise (· ≤ ·)
  loadable : ∀ entry ∈ edition.targets.keys,
    entry.1 = KeyStore.pinnedId ∨ entry.2.root?.isSome = true

variable {edition} {answers : String → Except TrustError Json} {name : String} {now : Instant}

theorem Readable.fetched (readable : edition.Readable) :
    Fetched (edition.served answers).fetch edition.documents where
  root := by
    refine Served.fetch_eq_ok.mpr ⟨_, rfl, ofJson_document (by simp) ?_⟩
    exact decodeRoot_payload
  snapshot := by
    refine Served.fetch_eq_ok.mpr ⟨_, rfl, ofJson_document (by simp [listingFields]) ?_⟩
    exact decodeListing_payload (List.pairwise_map.mp readable.sorted)
  timestamp := by
    refine Served.fetch_eq_ok.mpr ⟨_, rfl, ofJson_document (by simp [listingFields]) ?_⟩
    exact decodeListing_payload (List.pairwise_singleton ..)
  targets := Served.fetch_eq_ok.mpr ⟨_, rfl, ofJson_document readable.others readable.decoded⟩

theorem fetch_delegated (published : answers name = .ok (edition.delegated name).envelope) :
    (edition.served answers).fetch (.delegation name) = .ok (edition.delegated name) := by
  refine Served.fetch_eq_ok.mpr ⟨_, published, ofJson_document (by simp [tagFields]) ?_⟩
  exact decodeTargets_tag ..

theorem baseRing_pinnedId :
    baseRing edition.publisher.key edition.documents KeyStore.pinnedId =
      some edition.publisher.key :=
  Keyring.extend_of_some rfl _

theorem delegationRing_pinnedId :
    delegationRing edition.publisher.key edition.documents KeyStore.pinnedId =
      some edition.publisher.key :=
  Keyring.extend_of_some baseRing_pinnedId _

theorem trusted (early : now.nanoseconds ≤ expires.nanoseconds) :
    Trusted edition.publisher.suite now edition.publisher.key edition.documents where
  rootSigned := by
    intro entry member
    obtain rfl : entry = edition.publisher.signature [("keys", .object [])] := by
      simpa [documents, root, document] using member
    exact verifiesUnder_document
  timestampSigned := signedUnder_document baseRing_pinnedId
  snapshotSigned := signedUnder_document baseRing_pinnedId
  targetsSigned := signedUnder_document baseRing_pinnedId
  snapshotRecorded := ⟨_, rfl, hasContent_stored _ _⟩
  rootRecorded := ⟨_, rfl, hasContent_stored _ _⟩
  targetsRecorded := ⟨_, rfl, hasContent_stored _ _⟩
  rootFresh := early
  timestampFresh := early
  snapshotFresh := early
  targetsFresh := early

/-- The snapshot records the document of each delegation. -/
theorem recordedAs_delegated (member : name ∈ edition.names) :
    (edition.delegated name).RecordedAs edition.publisher.suite edition.snapshot
      (Role.delegation name).text := by
  have found : edition.recorded.lookup (Role.delegation name).text =
      some (edition.delegated name) := by
    rw [recorded, lookup_cons_eq_ite, if_neg (Role.text_delegation_ne (by decide)),
      lookup_cons_eq_ite, if_neg (Role.text_delegation_ne (by decide))]
    apply lookup_map_of_mem _ _ member
    intro a b same
    exact Role.delegation.inj (Role.text_injective same)
  refine ⟨entryOf edition.publisher.suite (edition.delegated name), ?_, hasContent_stored _ _⟩
  have listed : edition.snapshot.hashes.lookup (Role.delegation name).text =
      (edition.recorded.lookup (Role.delegation name).text).map
        (entryOf edition.publisher.suite) :=
    lookup_listed _ _ _
  rw [listed, found]
  rfl

section Walk

variable (readable : edition.Readable)
include readable

theorem Readable.formed : edition.documents.WellFormed :=
  have fetched : Fetched (edition.served fun _ => .error (.missing .delegations)).fetch
      edition.documents := readable.fetched
  Served.wellFormed_base fetched

theorem Readable.exists_merges :
    ∃ withRoot fromTimestamp fromSnapshot withSnapshot store,
      Merges edition.publisher.key edition.documents withRoot fromTimestamp fromSnapshot
        withSnapshot store := by
  have formed := readable.formed
  have unkeyed (store : KeyStore) {document : Document} (h : document.keys = []) :
      ∃ merged, store.merge document = .ok merged := KeyStore.merge_ok (by simp [h])
  have snapshotUnkeyed := Document.keys_of_role_listing formed.snapshot (.inl rfl)
  have timestampUnkeyed := Document.keys_of_role_listing formed.timestamp (.inr rfl)
  have rootUnkeyed : edition.documents.root.keys = [] := rfl
  obtain ⟨withRoot, root⟩ := unkeyed (.pinned edition.publisher.key) rootUnkeyed
  obtain ⟨fromTimestamp, timestamp⟩ := unkeyed .empty timestampUnkeyed
  obtain ⟨fromSnapshot, snapshotAlone⟩ := unkeyed .empty snapshotUnkeyed
  obtain ⟨withSnapshot, snapshot⟩ := unkeyed withRoot snapshotUnkeyed
  obtain ⟨store, targets⟩ : ∃ store, withSnapshot.merge edition.targets = .ok store := by
    refine KeyStore.merge_ok fun entry member => ?_
    -- The pinned id is that of the signer of the targets document.
    obtain same | loadable := readable.loadable entry member
    · exact .inl (same ▸ List.mem_singleton_self _)
    · exact .inr (.inr loadable)
  exact ⟨_, _, _, _, _, root, timestamp, snapshotAlone, snapshot, targets⟩

/-- The walk over the base documents succeeds, whatever is served for delegations. -/
theorem Readable.exists_base (answers : String → Except TrustError Json) {required : List Role}
    (early : now.nanoseconds ≤ expires.nanoseconds)
    (declared : ∀ role ∈ (consulted edition.targets required).getD [],
      role.text ∈ edition.targets.delegations) :
    ∃ store, base edition.publisher.suite now (edition.served answers).fetch
        edition.publisher.key required =
          .ok ⟨edition.targets, store, consulted edition.targets required⟩ ∧
      store.ring = delegationRing edition.publisher.key edition.documents ∧
      ∀ name, store.hashes.lookup name =
        (edition.snapshot.hashes.lookup name).map MetaEntry.stored := by
  have formed := readable.formed
  obtain ⟨_, _, _, _, store, merges⟩ := readable.exists_merges
  have valid := (validateBase_eq_ok formed).mpr ⟨trusted early, _, _, _, _, merges⟩
  exact ⟨store, base_eq_ok.mpr ⟨_, readable.fetched, valid, rfl, rfl, declared⟩,
    merges.ring_store formed, merges.hashes_store formed⟩

end Walk

section Resolution

variable {strict : Bool} {required : List Role} {image : Reference} {tag : String}

/-- A document with one tag has the digest that it is signed for. -/
theorem search_tag (tagged : image.tag = some tag) (undigested : image.digest = none)
    (digest : List UInt8) :
    search [(tag, targetOf digest)] image = .ok (some (String.ofList (Hex.encode digest))) := by
  simp [search, tagged, undigested, targetOf, Target.sha256?]

/-- An image with the tag of the edition resolves to the digest that its delegations list. -/
theorem Readable.validate_delegated {names : List String} (readable : edition.Readable)
    (early : now.nanoseconds ≤ expires.nanoseconds)
    (asked : consulted edition.targets required = some (names.map Role.delegation))
    (some_name : names ≠ [])
    (published : ∀ name ∈ names, name ∈ edition.names ∧
      (Role.delegation name).text ∈ edition.targets.delegations ∧
      answers name = .ok (edition.delegated name).envelope)
    (tagged : image.tag = some edition.tag) (undigested : image.digest = none) :
    (validate edition.publisher.suite now strict (edition.served answers).fetch
      edition.publisher.key required image).result = .ok edition.releasedDigest := by
  have asked_name {role : Role} (asked_role : role ∈ (consulted edition.targets required).getD []) :
      ∃ name ∈ names, role = .delegation name := by
    simpa [asked, eq_comm] using asked_role
  obtain ⟨store, walked, ring, hashes⟩ := readable.exists_base answers early fun role member => by
    obtain ⟨name, named, rfl⟩ := asked_name member
    exact (published name named).2.1
  have fetched : List.Forall₂
      (fun role document => (edition.served answers).fetch role = .ok document)
      (names.map Role.delegation) (names.map edition.delegated) := by
    rw [List.forall₂_map_left_iff, List.forall₂_map_right_iff]
    exact List.forall₂_same.mpr fun name member => fetch_delegated (published name member).2.2
  have searched : List.Forall₂ (fun document result => search document.targets image = .ok result)
      (names.map edition.delegated) (names.map fun _ => some edition.releasedDigest) := by
    rw [List.forall₂_map_left_iff, List.forall₂_map_right_iff]
    exact List.forall₂_same.mpr fun name _ => search_tag tagged undigested edition.released
  obtain ⟨first, rest, rfl⟩ := List.exists_cons_of_ne_nil some_name
  refine validate_eq_ok.mpr ⟨_, walked, ?_, _, asked ▸ .delegated fetched, ?_, _, searched, ?_⟩
  · intro role member
    obtain ⟨name, named, rfl⟩ := asked_name member
    obtain ⟨written, -, served⟩ := published name named
    have served := fetch_delegated served
    refine ⟨fun document found => ?_, fun _ => ⟨_, served⟩⟩
    obtain rfl : edition.delegated name = document := by simpa [served] using found
    refine (validate_delegation (Served.wellFormed served) ring hashes).mpr
      ⟨?_, early, recordedAs_delegated written⟩
    exact signedUnder_document delegationRing_pinnedId
  · exact ⟨edition.delegated first, List.mem_cons_self,
      by simp [delegated, document, Document.targets]⟩
  · exact agree_eq_ok.mpr (by simp)

end Resolution

end Edition

end SignedAdmission
