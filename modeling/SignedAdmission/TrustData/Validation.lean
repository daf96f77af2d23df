import SignedAdmission.Suite
import SignedAdmission.TrustData.KeyStore

/-! The three checks of a document: its signatures, its expiry, and the hash and length that another
document records for it. -/
namespace SignedAdmission.Document

/-- The key that a signature is checked with. For the root document that is the pinned one,
whatever key its signatures name. -/
def signingKeyId (role : Role) (entry : SignatureEntry) : String :=
  match role with
  | .root => KeyStore.pinnedId
  | _ => entry.keyId

def checkSignature (suite : Suite) (store : KeyStore) (document : Document)
    (entry : SignatureEntry) : Except TrustError Unit := do
  let key ← store.key (signingKeyId document.role entry)
  match Base64.decode? entry.signature.toList with
  | none => throw (.rejected (.signatureBase64 document.role))
  | some signature =>
    if suite.verify key document.message signature then pure ()
    else throw (.rejected (.signature document.role))

/-- Every signature must verify. -/
def validateSignature (suite : Suite) (store : KeyStore) (document : Document) :
    Except TrustError Unit :=
  document.entries.forM (checkSignature suite store document)

def validateExpiry (now : Instant) (document : Document) : Except TrustError Unit :=
  if document.expires.isBefore now then .error (.rejected (.expired document.role)) else .ok ()

/-- Hash and length must be the ones recorded for the role. No document records the timestamp's. -/
def validateHash (suite : Suite) (store : KeyStore) (document : Document) :
    Except TrustError Unit :=
  if document.role = .timestamp then .ok ()
  else do
    let (text, length) ← store.hash document.role.text
    match Base64.decode? text.toList with
    | none => throw (.format (.hashBase64 document.role))
    | some expected =>
      if suite.hash document.content = expected ∧ document.content.length = length then pure ()
      else throw (.rejected (.hash document.role))

def validate (suite : Suite) (now : Instant) (store : KeyStore) (document : Document) :
    Except TrustError Unit := do
  document.validateSignature suite store
  document.validateExpiry now
  document.validateHash suite store

end SignedAdmission.Document
