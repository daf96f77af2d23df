import SignedAdmission.Error
import SignedAdmission.Instant
import SignedAdmission.Json.Reader

/-! Signed documents. The payload is kept as it was received, so that signatures and hashes are
computed over the same compact form that was signed. -/
namespace SignedAdmission

/-- A public key as documents list it. -/
structure ListedKey where
  keytype : String
  text : String
deriving DecidableEq, Repr

/-- Hashes and size of another document. -/
structure MetaEntry where
  hashes : List (String × String)
  length : Nat
deriving DecidableEq, Repr

/-- Hashes and size of the image that a tag is signed for. -/
structure Target where
  hashes : List (String × String)
  length : Nat
deriving DecidableEq, Repr

/-- Keys of delegations, and the names of the roles they sign. -/
structure Delegations where
  keys : List (String × ListedKey)
  roles : List String
deriving DecidableEq, Repr

structure SignatureEntry where
  keyId : String
  signature : String
deriving DecidableEq, Repr

/-- What a document says, by the kind of its role. Entries are in the order of their keys. -/
inductive Body where
  | root (keys : List (String × ListedKey))
  | listing (entries : List (String × MetaEntry))
  | targets (targets : List (String × Target)) (delegations : Delegations)
deriving DecidableEq, Repr

structure Document where
  role : Role
  signed : Json
  signatures : List Json
  entries : List SignatureEntry
  expires : Instant
  body : Body

def sha256Name : String := "sha256"

def Target.sha256? (target : Target) : Option String :=
  target.hashes.lookup sha256Name

section Decoding

open Json

def ListedKey.decode (value : Json) : Except ShapeError ListedKey := do
  let text : RecordField String := { name := "public", decode := Decoder.string }
  let keytype : RecordField String := { name := "keytype", decode := Decoder.string }
  let keyval : RecordField String :=
    { name := "keyval"
      decode := fun value => do text.get (← Record.slots "KeyVal" [text.rule] value) }
  let slots ← Record.slots "TufKey" [keytype.rule, keyval.rule] value
  return { keytype := ← keytype.get slots, text := ← keyval.get slots }

def lengthField : RecordField Nat :=
  { name := "length", decode := Decoder.unsigned, absence := .anywhere 0 }

def MetaEntry.decode (value : Json) : Except ShapeError MetaEntry := do
  let hashes : RecordField (List (String × String)) :=
    { name := "hashes", decode := Decoder.dictionary Decoder.string, absence := .anywhere [] }
  let slots ← Record.slots "MetaEntry" [hashes.rule, lengthField.rule] value
  return { hashes := ← hashes.get slots, length := ← lengthField.get slots }

def Target.decode (value : Json) : Except ShapeError Target := do
  let hashes : RecordField (List (String × String)) :=
    { name := "hashes", decode := Decoder.dictionary Decoder.string }
  let slots ← Record.slots "Target" [hashes.rule, lengthField.rule] value
  return { hashes := ← hashes.get slots, length := ← lengthField.get slots }

def Delegations.decodeRole (value : Json) : Except ShapeError String := do
  let name : RecordField String := { name := "name", decode := Decoder.string }
  name.get (← Record.slots "DelegationRole" [name.rule] value)

def Delegations.decode (value : Json) : Except ShapeError Delegations := do
  let keys : RecordField (List (String × ListedKey)) :=
    { name := "keys", decode := Decoder.dictionary ListedKey.decode, absence := .anywhere [] }
  let roles : RecordField (List String) :=
    { name := "roles", decode := Decoder.list decodeRole, absence := .anywhere [] }
  let slots ← Record.slots "Delegations" [keys.rule, roles.rule] value
  return { keys := ← keys.get slots, roles := ← roles.get slots }

def SignatureEntry.decode (value : Json) : Except ShapeError SignatureEntry := do
  let keyId : RecordField String := { name := "keyid", decode := Decoder.string }
  let signature : RecordField String := { name := "sig", decode := Decoder.string }
  let slots ← Record.slots "SignatureEntry" [keyId.rule, signature.rule] value
  return { keyId := ← keyId.get slots, signature := ← signature.get slots }

/-- The payload of a document and its signatures, as yet unread. -/
def Document.decodeEnvelope (value : Json) : Except ShapeError (Json × List Json) := do
  let signed : RecordField Json := { name := "signed", decode := Decoder.any }
  let signatures : RecordField (List Json) :=
    { name := "signatures", decode := Decoder.list Decoder.any }
  let slots ← Record.slots "Envelope" [signed.rule, signatures.rule] value
  return (← signed.get slots, ← signatures.get slots)

def Document.decodeExpiry (signed : Json) : Except ShapeError String := do
  let expires : RecordField String := { name := "expires", decode := Decoder.string }
  expires.get (← Record.slots "Expiry" [expires.rule] signed)

def Body.decodeRoot (signed : Json) : Except ShapeError Body := do
  let keys : RecordField (List (String × ListedKey)) :=
    { name := "keys", decode := Decoder.dictionary ListedKey.decode }
  return .root (← keys.get (← Record.slots "RootSigned" [keys.rule] signed))

def Body.decodeListing (signed : Json) : Except ShapeError Body := do
  let entries : RecordField (List (String × MetaEntry)) :=
    { name := "meta", decode := Decoder.dictionary MetaEntry.decode }
  return .listing (← entries.get (← Record.slots "MetaSigned" [entries.rule] signed))

def Body.decodeTargets (signed : Json) : Except ShapeError Body := do
  let targets : RecordField (List (String × Target)) :=
    { name := "targets", decode := Decoder.dictionary Target.decode, absence := .anywhere [] }
  let delegations : RecordField Delegations :=
    { name := "delegations", decode := Delegations.decode, absence := .anywhere ⟨[], []⟩ }
  let slots ← Record.slots "TargetsSigned" [targets.rule, delegations.rule] signed
  return .targets (← targets.get slots) (← delegations.get slots)

def Body.decode (role : Role) (signed : Json) : Except ShapeError Body :=
  match role with
  | .root => decodeRoot signed
  | .snapshot => decodeListing signed
  | .timestamp => decodeListing signed
  | .targets => decodeTargets signed
  | .delegation _ => decodeTargets signed

end Decoding

namespace Document

/-- The document of a role that a value holds. -/
def ofJson (role : Role) (value : Json) : Except TrustError Document := do
  let badShape (e : Json.ShapeError) : TrustError := .format (.documentShape role e)
  let badPayload (e : Json.ShapeError) : TrustError := .format (.payloadShape role e)
  let (signed, signatures) ← (decodeEnvelope value).mapError badShape
  let entries ← (signatures.mapM SignatureEntry.decode).mapError badShape
  if entries.isEmpty then throw (.format (.documentUnsigned role))
  let expiry ← (decodeExpiry signed).mapError badPayload
  let expires ←
    match Instant.ofText? expiry with
    | some expires => pure expires
    | none => throw (.format (.expiry role))
  let body ← (Body.decode role signed).mapError badPayload
  return { role, signed, signatures, entries, expires, body }

/-- The document of a role that bytes hold. -/
def ofBytes (role : Role) (bytes : List UInt8) : Except TrustError Document :=
  match Json.ofBytes? bytes with
  | some value => ofJson role value
  | none => .error (.format (.documentText role))

/-- The bytes that signatures are made of. -/
def message (document : Document) : List UInt8 :=
  document.signed.bytes

/-- The bytes that hash and length in other documents are made of. -/
def content (document : Document) : List UInt8 :=
  (Json.object [("signed", document.signed), ("signatures", .array document.signatures)]).bytes

def keyIds (document : Document) : List String :=
  document.entries.map (·.keyId)

/-- A targets document delegates if it lists both keys and roles. -/
def hasDelegations (document : Document) : Bool :=
  match document.body with
  | .targets _ delegations => !delegations.keys.isEmpty && !delegations.roles.isEmpty
  | _ => false

/-- The keys that a document vouches for. -/
def keys (document : Document) : List (String × ListedKey) :=
  match document.body with
  | .root keys => keys
  | .targets _ delegations => if document.hasDelegations then delegations.keys else []
  | .listing _ => []

/-- What a document says about other documents. -/
def hashes (document : Document) : List (String × MetaEntry) :=
  match document.body with
  | .listing entries => entries
  | _ => []

/-- The names of the roles that a targets document delegates to. -/
def delegations (document : Document) : List String :=
  match document.body with
  | .targets _ delegations => delegations.roles
  | _ => []

/-- The signed tags. -/
def targets (document : Document) : List (String × Target) :=
  match document.body with
  | .targets targets _ => targets
  | _ => []

/-- The hash in base64 that is signed for a tag. -/
def digestOf (document : Document) (tag : String) : Except TrustError String :=
  match (document.targets.lookup tag).bind Target.sha256? with
  | some digest => .ok digest
  | none => .error (.missing (.tag tag))

end Document

end SignedAdmission
