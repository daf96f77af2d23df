import SignedAdmission.Reference.Basic
import SignedAdmission.TrustData.Validation

/-! The digest that an image is signed for. The walk starts at a pinned key and goes over root,
timestamp, snapshot and targets to the delegations; the image is then looked up in the documents
that may decide about it, which have to agree. -/
namespace SignedAdmission.Chain

/-- What comes of asking for the document of a role. -/
abbrev Fetch := Role → Except TrustError Document

structure BaseDocuments where
  root : Document
  snapshot : Document
  timestamp : Document
  targets : Document

def fetchBase (fetch : Fetch) : Except TrustError BaseDocuments := do
  let root ← fetch .root
  let snapshot ← fetch .snapshot
  let timestamp ← fetch .timestamp
  let targets ← fetch .targets
  return { root, snapshot, timestamp, targets }

/-- Validates the base documents and returns the keys and hashes that delegations are checked with.
The hash of root is checked only once the snapshot that records it is trusted, and each document is
held against the hashes of the one that vouches for it alone. -/
def validateBase (suite : Suite) (now : Instant) (root : TrustRoot) (documents : BaseDocuments) :
    Except TrustError KeyStore := do
  let store := KeyStore.pinned root
  documents.root.validateSignature suite store
  documents.root.validateExpiry now
  let store ← store.merge documents.root
  documents.timestamp.validate suite now store
  documents.snapshot.validateSignature suite store
  let fromTimestamp ← KeyStore.empty.merge documents.timestamp
  documents.snapshot.validateHash suite fromTimestamp
  documents.snapshot.validateExpiry now
  let fromSnapshot ← KeyStore.empty.merge documents.snapshot
  documents.root.validateHash suite fromSnapshot
  let store ← store.merge documents.snapshot
  documents.targets.validate suite now store
  store.merge documents.targets

/-- The delegations to consult, the default one if none is required. -/
def effectiveRoles (required : List Role) : List Role :=
  if required.isEmpty then [.releases] else required

/-- All roles must be among those that the targets document declares. -/
def checkDeclared (roles : List Role) (declared : List String) : Except TrustError Unit :=
  if declared.isEmpty then .error (.missing .delegations)
  else
    let undeclared := (roles.map Role.text).filter (!declared.contains ·)
    if undeclared.isEmpty then .ok () else .error (.missing (.declaredRoles undeclared))

/-- The state of a walk whose base documents are valid: the targets document, what is known about
keys and hashes, and the delegations to fetch, if any are to be consulted. -/
structure Base where
  targets : Document
  store : KeyStore
  roles : Option (List Role)

def base (suite : Suite) (now : Instant) (fetch : Fetch) (root : TrustRoot)
    (required : List Role) : Except TrustError Base := do
  let documents ← fetchBase fetch
  let store ← validateBase suite now root documents
  let targets := documents.targets
  if targets.hasDelegations || !required.isEmpty then
    let roles := effectiveRoles required
    checkDeclared roles targets.delegations
    return { targets, store, roles := some roles }
  else
    return { targets, store, roles := none }

/-- A delegation that was declared but never signed with has no document. Unless fetching is
strict, every failure to fetch one is read that way. -/
def fetchDelegation (strict : Bool) (fetch : Fetch) (role : Role) :
    Except TrustError (Option Document) :=
  match fetch role with
  | .ok document => .ok (some document)
  | .error e => if strict then .error e else .ok none

/-- The warning about a delegation that is read as absent. -/
def absenceWarning? (fetch : Fetch) (image : Reference) (role : Role) : Option String :=
  match fetch role with
  | .ok _ => none
  | .error e =>
    some ("no trust data for delegation " ++ role.text ++ " of " ++ image.canonical ++ ": " ++
      e.message)

/-- The valid documents of delegations, without those that are absent. -/
def delegations (suite : Suite) (now : Instant) (strict : Bool) (fetch : Fetch)
    (store : KeyStore) : List Role → Except TrustError (List (Role × Document))
  | [] => .ok []
  | role :: roles => do
    match ← fetchDelegation strict fetch role with
    | none => delegations suite now strict fetch store roles
    | some document =>
      document.validate suite now store
      return (role, document) :: (← delegations suite now strict fetch store roles)

/-- The signed tags that decide about the image. The targets document takes the place of the
default delegation if that one is absent; every other one must be there. -/
def selectTargets (targets : Document) (roles : Option (List Role))
    (found : List (Role × Document)) (image : Reference) :
    Except TrustError (List (List (String × Target))) := do
  let selected ←
    match roles with
    | none => pure [targets.targets]
    | some roles =>
      let absent := roles.filter fun role => (found.lookup role).isNone
      if roles = [.releases] ∧ absent = [.releases] then pure [targets.targets]
      else if absent.isEmpty then
        pure (roles.map fun role => ((found.lookup role).map Document.targets).getD [])
      else throw (.missing (.roleDocuments (absent.map Role.text) image.canonical))
  if selected.all List.isEmpty then throw (.missing .digests)
  return selected

/-- The digest that signed tags have for an image: by its tag, where a digest that the image also
names must be the signed one, or else by its digest. -/
def search (targets : List (String × Target)) (image : Reference) :
    Except TrustError (Option String) :=
  match image.tag, image.digest with
  | some tag, requested =>
    match (targets.lookup tag).bind Target.sha256? with
    | none => .ok none
    | some signed =>
      match Base64.decode? signed.toList with
      | none => .error (.format (.tagBase64 tag))
      | some bytes =>
        let digest := String.ofList (Hex.encode bytes)
        match requested with
        | some requested =>
          if requested = digest then .ok (some digest)
          else .error (.rejected (.tagAndDigest tag digest requested))
        | none => .ok (some digest)
  | none, some requested =>
    match Hex.decode requested.toList with
    | .error fault => .error (.format (.digestHex requested fault))
    | .ok bytes =>
      let text := String.ofList (Base64.encode bytes)
      if targets.any fun (_, target) => target.sha256? == some text then .ok (some requested)
      else .ok none
  | none, none => .ok none

/-- All documents have to agree on one digest, and each required one must have it. -/
def agree (required : List Role) (image : Reference) (found : List (Option String)) :
    Except TrustError String :=
  if !required.isEmpty && found.any Option.isNone then
    .error (.insufficientTrustData image.canonical)
  else
    match (found.filterMap id).eraseDups with
    | [] => .error (.missing (.digest image.canonical))
    | [digest] => .ok digest
    | _ => .error (.ambiguousDigest image.canonical)

/-- What comes of a validation: the digest, the warnings, and the delegations that were fetched. -/
structure Outcome where
  result : Except TrustError String
  warnings : List String
  fetched : List Role

/-- Resolves the digest that an image is signed for. -/
def validate (suite : Suite) (now : Instant) (strict : Bool) (fetch : Fetch) (root : TrustRoot)
    (required : List Role) (image : Reference) : Outcome :=
  match base suite now fetch root required with
  | .error e => { result := .error e, warnings := [], fetched := [] }
  | .ok base =>
    let fetched := base.roles.getD []
    { result := do
        let found ← delegations suite now strict fetch base.store fetched
        let selected ← selectTargets base.targets base.roles found image
        agree required image (← selected.mapM fun targets => search targets image)
      warnings := if strict then [] else fetched.filterMap (absenceWarning? fetch image)
      fetched }

end SignedAdmission.Chain
