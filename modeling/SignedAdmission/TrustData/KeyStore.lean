import SignedAdmission.Key.TrustRoot
import SignedAdmission.TrustData.Document

/-! Keys and hashes that are collected while a chain of documents is walked. Entries are only ever
added, and the first one for an id or a role stays. -/
namespace SignedAdmission

structure KeyStore where
  keys : List (String × TrustRoot)
  /-- Hashes in base64 and lengths, by the name of the role. -/
  hashes : List (String × String × Nat)

namespace KeyStore

/-- The id of the key that the whole chain hangs on. -/
def pinnedId : String := "root"

def empty : KeyStore := ⟨[], []⟩

/-- A store that holds only a pinned key. -/
def pinned (root : TrustRoot) : KeyStore := ⟨[(pinnedId, root)], []⟩

def key (store : KeyStore) (id : String) : Except TrustError TrustRoot :=
  match store.keys.lookup id with
  | some root => .ok root
  | none => .error (.missing (.key id))

def hash (store : KeyStore) (role : String) : Except TrustError (String × Nat) :=
  match store.hashes.lookup role with
  | some entry => .ok entry
  | none => .error (.missing (.hash role))

/-- Adds listed keys one by one up to the first that cannot be loaded. The ids of signers, and ids
that are there already, are passed over. -/
def addKeys (signers : List String) (store : KeyStore) :
    List (String × ListedKey) → KeyStore × Except TrustError Unit
  | [] => (store, .ok ())
  | (id, listed) :: rest =>
    if signers.contains id || (store.keys.lookup id).isSome then addKeys signers store rest
    else
      match TrustRoot.ofListed listed.text with
      | .ok root => addKeys signers { store with keys := store.keys ++ [(id, root)] } rest
      | .error fault => (store, .error (.format (.storedKey id fault)))

/-- Adds what is said about roles that have no entry yet. A missing hash reads as the empty one. -/
def addHashes (store : KeyStore) : List (String × MetaEntry) → KeyStore
  | [] => store
  | (role, entry) :: rest =>
    if (store.hashes.lookup role).isSome then addHashes store rest
    else
      let hash := (entry.hashes.lookup sha256Name).getD ""
      addHashes { store with hashes := store.hashes ++ [(role, hash, entry.length)] } rest

/-- Merges the keys and hashes that a document vouches for. A key that signed the document itself
is never trusted on the document's word. -/
def update (store : KeyStore) (document : Document) : KeyStore × Except TrustError Unit :=
  match store.addKeys document.keyIds document.keys with
  | (store, .ok ()) => (store.addHashes document.hashes, .ok ())
  | (store, .error e) => (store, .error e)

/-- The updated store, if the update succeeds. -/
def merge (store : KeyStore) (document : Document) : Except TrustError KeyStore :=
  match store.update document with
  | (store, .ok ()) => .ok store
  | (_, .error e) => .error e

end KeyStore

end SignedAdmission
