import SignedAdmission.Proofs.Key.Classification
import SignedAdmission.Proofs.TrustData.KeyStoreRun

/-! Which keys of a store can verify signatures. All can that documents have listed, save for mail
addresses that begin like a textual document. -/
namespace SignedAdmission.KeyStore

open TrustRoot (Disguises)

variable {start : KeyStore} {id : String} {root : TrustRoot}

/-- A document that lists a mail address under an id, where the text of a key belongs. -/
def ListsAddress (document : Document) (id : String) (root : TrustRoot) : Prop :=
  id ∉ document.keyIds ∧
    ∃ listed, document.keys.lookup id = some listed ∧ Disguises listed.text root

/-- A key that a document vouches for can verify signatures, unless it is a mail address. -/
theorem usable_of_vouches {document : Document} (vouched : document.Vouches id root) :
    root.isKey = true ∨ ListsAddress document id root := by
  obtain ⟨unsigned, listed, found, loaded⟩ := vouched
  cases usable : root.isKey with
  | true => exact .inl rfl
  | false =>
    exact .inr ⟨unsigned, listed, found, TrustRoot.unusable_iff.mp ⟨loaded, usable⟩⟩

/-- What trust data lists is loaded as a key, or it is a mail address that begins like a textual
document; it is never taken for the address of a key service. So along any run of updates every key
but the pinned one can verify signatures, unless a document lists such a mail address under its
id. -/
theorem usable_or_address (text : String) (initial : Initial start) (documents : List Document) :
    (∀ root, TrustRoot.ofListed text = .ok root ∧ root.isKey = false ↔ Disguises text root) ∧
    (∀ address, TrustRoot.ofListed text ≠ .ok (.kms address)) ∧
    ∀ id root, (start.run documents).ring id = some root →
      start = .pinned root ∧ id = pinnedId ∨ root.isKey = true ∨
        ∃ document ∈ documents, ListsAddress document id root := by
  refine ⟨fun root => TrustRoot.unusable_iff, ?_, ?_⟩
  · intro address loaded
    obtain ⟨document, -, -, other⟩ := TrustRoot.unusable_iff.mp ⟨loaded, rfl⟩
    contradiction
  · intro id root found
    rcases vouched_of_run found with known | ⟨document, member, vouched⟩
    · exact .inl (initial.pinned_of_ring known)
    · right
      exact (usable_of_vouches vouched).imp_right fun lists => ⟨document, member, lists⟩

section Sample

open Json Publisher

/-- A mail address that begins like a textual document. -/
def dashedAddress : String := "-----BEGIN@example.com"

/-- A document that lists the address as a key, signed by the publisher of the sample. -/
def addressDocument : Document :=
  Publication.sample.publisher.document .root
    [("keys", .object [("address", .object
      [("keytype", .string "ecdsa"), ("keyval", .object [("public", .string dashedAddress)])])])]
    (.root [("address", ⟨"ecdsa", dashedAddress⟩)])

theorem ofListed_dashedAddress :
    TrustRoot.ofListed dashedAddress = .ok (.keyless dashedAddress) := by
  rfl

theorem ofJson_addressDocument :
    Document.ofJson .root addressDocument.envelope = .ok addressDocument := by
  apply ofJson_document
  · simp
  · have keys : Decoder.dictionary ListedKey.decode (.object [("address", .object
        [("keytype", .string "ecdsa"), ("keyval", .object [("public", .string dashedAddress)])])]) =
        .ok [("address", ⟨"ecdsa", dashedAddress⟩)] :=
      Decoder.dictionary_of_sorted (.cons ⟨rfl, rfl⟩ .nil) (List.pairwise_singleton ..)
    simp [Body.decode, Body.decodeRoot, payload, Record.slots, Record.visit, RecordField.rule,
      RecordField.get, keys]

theorem ring_addressDocument :
    (KeyStore.empty.run [addressDocument]).ring "address" = some (.keyless dashedAddress) := by
  rfl

theorem usable_or_address_of_addressDocument :
    Initial .empty ∧
      (KeyStore.empty.run [addressDocument]).ring "address" = some (.keyless dashedAddress) ∧
      Disguises dashedAddress (.keyless dashedAddress) ∧
      ListsAddress addressDocument "address" (.keyless dashedAddress) := by
  obtain ⟨listed, -, stored⟩ := usable_or_address dashedAddress .empty [addressDocument]
  refine ⟨.empty, ring_addressDocument, (listed _).mp ⟨ofListed_dashedAddress, rfl⟩, ?_⟩
  rcases stored _ _ ring_addressDocument with ⟨-, pinned⟩ | usable | ⟨document, member, lists⟩
  · exact absurd pinned (by decide)
  · contradiction
  · obtain rfl := List.mem_singleton.mp member
    exact lists

/-- The address is loaded and stored, from a document that is read without complaint. -/
theorem address_stored :
    TrustRoot.ofListed dashedAddress = .ok (.keyless dashedAddress) ∧
      (TrustRoot.keyless dashedAddress).isKey = false ∧
      Document.ofJson .root addressDocument.envelope = .ok addressDocument ∧
      (KeyStore.empty.run [addressDocument]).ring "address" = some (.keyless dashedAddress) :=
  ⟨ofListed_dashedAddress, rfl, ofJson_addressDocument, ring_addressDocument⟩

end Sample

end SignedAdmission.KeyStore
