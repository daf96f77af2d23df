import SignedAdmission.Proofs.Checks
import SignedAdmission.Proofs.Lookup
import SignedAdmission.TrustData.KeyStore

/-! What a key store knows after a document is merged into it, entry by entry. -/
namespace SignedAdmission

/-- The keys that signatures may be checked with, by their ids. -/
abbrev Keyring := String → Option TrustRoot

namespace ListedKey

def root? (listed : ListedKey) : Option TrustRoot :=
  (TrustRoot.ofListed listed.text).toOption

end ListedKey

namespace Keyring

def pinned (root : TrustRoot) : Keyring := fun id =>
  if id = KeyStore.pinnedId then some root else none

/-- Keys that are there stay as they are. A key that the document lists is new, unless the document
is itself signed in its name. -/
def extend (ring : Keyring) (document : Document) : Keyring := fun id =>
  (ring id).or
    (if id ∈ document.keyIds then none else (document.keys.lookup id).bind ListedKey.root?)

theorem extend_of_some {ring : Keyring} {id : String} {key : TrustRoot} (h : ring id = some key)
    (document : Document) : ring.extend document id = some key := by
  simp [extend, h]

/-- A document without keys adds none. -/
theorem extend_of_no_keys {document : Document} (h : document.keys = []) (ring : Keyring) :
    ring.extend document = ring := by
  funext id
  simp [extend, h]

end Keyring

namespace KeyStore

def ring (store : KeyStore) : Keyring := fun id =>
  store.keys.lookup id

theorem ring_pinned (root : TrustRoot) : (pinned root).ring = Keyring.pinned root := by
  funext id
  rw [ring, pinned, lookup_cons_eq_ite]
  rfl

theorem key_eq_ok {store : KeyStore} {id : String} {root : TrustRoot} :
    store.key id = .ok root ↔ store.ring id = some root := by
  rw [key, ring]
  cases store.keys.lookup id <;> simp

theorem hash_eq_ok {store : KeyStore} {role : String} {entry : String × Nat} :
    store.hash role = .ok entry ↔ store.hashes.lookup role = some entry := by
  rw [hash]
  cases store.hashes.lookup role <;> simp

theorem hashes_addKeys (signers : List String) (store : KeyStore)
    (listed : List (String × ListedKey)) :
    (store.addKeys signers listed).1.hashes = store.hashes := by
  induction listed generalizing store with
  | nil => rfl
  | cons entry rest ih =>
    obtain ⟨id, key⟩ := entry
    rw [addKeys]
    split
    · exact ih store
    · cases TrustRoot.ofListed key.text with
      | ok root => exact ih _
      | error fault => rfl

/-- Every listed id is in the ring afterwards, or is the id of a signer. -/
theorem ring_addKeys {signers : List String} {store after : KeyStore}
    {listed : List (String × ListedKey)} (h : store.addKeys signers listed = (after, .ok ()))
    (id : String) :
    after.ring id = (store.ring id).or
      (if id ∈ signers then none else (listed.lookup id).bind ListedKey.root?) := by
  induction listed generalizing store with
  | nil =>
    cases h
    simp
  | cons entry rest ih =>
    obtain ⟨other, key⟩ := entry
    rw [addKeys] at h
    split at h
    case isTrue skipped =>
      -- The entry changes nothing: its id is a signer's, or has a key already.
      rw [ih h, lookup_cons_eq_ite]
      simp only [Bool.or_eq_true, List.contains_iff_mem, Option.isSome_iff_exists] at skipped
      by_cases same : id = other
      · subst same
        obtain signer | ⟨known, found⟩ := skipped
        · simp [signer]
        · simp [ring, found]
      · simp [same]
    case isFalse fresh =>
      cases loaded : TrustRoot.ofListed key.text with
      | error fault => simp [loaded] at h
      | ok root =>
        rw [loaded] at h
        rw [ih h, lookup_cons_eq_ite]
        simp only [Bool.or_eq_true, List.contains_iff_mem, not_or, Bool.not_eq_true,
          Option.isSome_eq_false_iff, Option.isNone_iff_eq_none] at fresh
        simp only [ring, List.lookup_append, lookup_cons_eq_ite]
        by_cases same : id = other
        · subst same
          simp [fresh, ListedKey.root?, loaded, Except.toOption]
        · simp [same]

/-- Only a key that is looked at and cannot be loaded stops the keys from being added. -/
theorem addKeys_ok {signers : List String} {store : KeyStore} {listed : List (String × ListedKey)}
    (h : ∀ entry ∈ listed,
      entry.1 ∈ signers ∨ (store.ring entry.1).isSome ∨ entry.2.root?.isSome) :
    ∃ after, store.addKeys signers listed = (after, .ok ()) := by
  induction listed generalizing store with
  | nil => exact ⟨store, rfl⟩
  | cons entry rest ih =>
    obtain ⟨id, key⟩ := entry
    rw [List.forall_mem_cons] at h
    obtain ⟨loadable, h⟩ := h
    rw [addKeys]
    split
    case isTrue skipped => exact ih h
    case isFalse fresh =>
      simp only [Bool.or_eq_true, List.contains_iff_mem, not_or] at fresh
      have loaded := (loadable.resolve_left fresh.1).resolve_left fresh.2
      obtain ⟨root, loaded⟩ := Option.isSome_iff_exists.mp loaded
      simp only [Checks.toOption_eq_some.mp loaded]
      refine ih fun entry listed => ?_
      obtain signer | known | loadable := h entry listed
      · exact .inl signer
      · obtain ⟨key, known⟩ := Option.isSome_iff_exists.mp known
        rw [ring] at known
        exact .inr (.inl (by simp [ring, List.lookup_append, known]))
      · exact .inr (.inr loadable)

theorem keys_addHashes (store : KeyStore) (listing : List (String × MetaEntry)) :
    (store.addHashes listing).keys = store.keys := by
  induction listing generalizing store with
  | nil => rfl
  | cons entry rest ih =>
    rw [addHashes]
    split
    · exact ih store
    · exact ih _

end KeyStore

namespace MetaEntry

/-- The hash in base64 and the length, as stores keep them. -/
def stored (entry : MetaEntry) : String × Nat :=
  ((entry.hashes.lookup sha256Name).getD "", entry.length)

end MetaEntry

namespace KeyStore

theorem lookup_addHashes (store : KeyStore) (listing : List (String × MetaEntry))
    (role : String) :
    (store.addHashes listing).hashes.lookup role =
      (store.hashes.lookup role).or ((listing.lookup role).map MetaEntry.stored) := by
  induction listing generalizing store with
  | nil => simp [addHashes]
  | cons entry rest ih =>
    obtain ⟨other, entry⟩ := entry
    rw [addHashes, lookup_cons_eq_ite]
    split
    case isTrue known =>
      obtain ⟨stored, found⟩ := Option.isSome_iff_exists.mp known
      rw [ih]
      by_cases same : role = other
      · subst same
        simp [found]
      · simp [same]
    case isFalse fresh =>
      have absent : store.hashes.lookup other = none := by
        simpa only [Bool.not_eq_true, Option.isSome_eq_false_iff, Option.isNone_iff_eq_none] using
          fresh
      rw [ih, List.lookup_append, lookup_cons_eq_ite]
      by_cases same : role = other
      · subst same
        simp [absent, MetaEntry.stored]
      · simp [same]

section Merge

variable {store merged : KeyStore} {document : Document}

theorem merge_eq_ok (h : store.merge document = .ok merged) :
    ∃ withKeys, store.addKeys document.keyIds document.keys = (withKeys, .ok ()) ∧
      merged = withKeys.addHashes document.hashes := by
  rw [merge, update] at h
  cases added : store.addKeys document.keyIds document.keys with
  | mk withKeys result =>
    cases result with
    | ok done =>
      simp only [added, Except.ok.injEq] at h
      exact ⟨withKeys, rfl, h.symm⟩
    | error e => simp [added] at h

theorem ring_merge (h : store.merge document = .ok merged) :
    merged.ring = store.ring.extend document := by
  obtain ⟨withKeys, added, rfl⟩ := merge_eq_ok h
  funext id
  rw [ring, keys_addHashes]
  exact ring_addKeys added id

theorem lookup_hashes_merge (h : store.merge document = .ok merged) (role : String) :
    merged.hashes.lookup role =
      (store.hashes.lookup role).or ((document.hashes.lookup role).map MetaEntry.stored) := by
  obtain ⟨withKeys, added, rfl⟩ := merge_eq_ok h
  have kept : withKeys.hashes = store.hashes := by
    simpa only [added] using hashes_addKeys document.keyIds store document.keys
  rw [lookup_addHashes, kept]

theorem merge_ok (h : ∀ entry ∈ document.keys,
      entry.1 ∈ document.keyIds ∨ (store.ring entry.1).isSome ∨ entry.2.root?.isSome) :
    ∃ merged, store.merge document = .ok merged := by
  obtain ⟨withKeys, added⟩ := addKeys_ok h
  exact ⟨withKeys.addHashes document.hashes, by simp [merge, update, added]⟩

end Merge

end KeyStore

end SignedAdmission
