import SignedAdmission.Notary.Challenge
import SignedAdmission.Notary.Exchange
import SignedAdmission.Notary.Settings
import SignedAdmission.Notary.Token
import SignedAdmission.Reference.Basic
import SignedAdmission.TrustData.Document

/-! A notary: a server of documents. A request that is refused with a challenge is repeated once,
with a token from the endpoint that the challenge names. -/
namespace SignedAdmission

structure Notary where
  name : String
  settings : NotarySettings

namespace Notary

def ofSettings (name : String) (settings : NotarySettings) : Except TrustError Notary :=
  if settings.certificate.all Certificate.isBundle then .ok ⟨name, settings⟩
  else .error (.format (.certificate name))

def defaultRoot : String := "default"

/-- The key material of a trust root, the default one if no name is given. -/
def rootText (notary : Notary) (name : Option String) : Except TrustError String :=
  let name := name.getD defaultRoot
  match notary.settings.trustRoots.find? (·.name == name) with
  | some root => .ok root.key
  | none => .error (.missing (.trustRoot name notary.name))

def scheme : String := "https"

/-- The address of the document of a role for the repository of an image. -/
def documentUrl (notary : Notary) (image : Reference) (role : Role) : String :=
  let repository := if image.repository = "" then "" else image.repository ++ "/"
  scheme ++ "://" ++ notary.settings.host ++ "/v2/" ++ image.registry ++ "/" ++ repository ++
    image.name ++ "/_trust/tuf/" ++ role.text ++ ".json"

def healthUrl (notary : Notary) : String :=
  scheme ++ "://" ++ notary.settings.host ++ "/_notary_server/health"

/-- Some registries cannot be asked and count as healthy. -/
def healthy (notary : Notary) : Exchange Bool :=
  if notary.settings.isAcr then .done true
  else .send ⟨notary.healthUrl, none⟩ fun response => .done (response.any (·.status == 200))

/-- Header text is made of visible ASCII characters, blanks and tabs. -/
def headerText? (bytes : List UInt8) : Option String :=
  if bytes.all fun b => (32 ≤ b && b < 127) || b == 9 then
    some (String.ofList (bytes.map fun b => Char.ofNat b.toNat))
  else none

/-- The token in the answer of the endpoint at `url`. -/
def tokenOf (notary : Notary) (url : String) : Option Response → Except TrustError String
  | none => .error (.http url)
  | some response =>
    if response.isServerError then .error (.missing (.tokenEndpoint url))
    else if response.status = 401 ∨ response.status = 403 then
      .error (.unauthorized notary.name url)
    else if response.isClientError then .error (.http url)
    else Token.ofBody notary.settings.isAcr url response.body

/-- Credentials are shown to token endpoints only. -/
def tokenRequest (notary : Notary) (url : String) : Request :=
  ⟨url, notary.settings.credentials.map fun c => .basic c.username c.password⟩

/-- The document in the last answer. -/
def documentOf (notary : Notary) (role : Role) (url : String) :
    Option Response → Except TrustError Document
  | none => .error (.http url)
  | some response =>
    if response.status = 404 then .error (.missing (.document role (some notary.name)))
    else if response.isClientError || response.isServerError then .error (.http url)
    else Document.ofBytes role response.body

/-- The address of the token endpoint that a challenge names. -/
def tokenUrl (notary : Notary) (challenge : List UInt8) : Except TrustError String :=
  match headerText? challenge with
  | some header => Challenge.tokenUrl notary.name header
  | none => .error (.format .challengeAscii)

/-- Asks for the document of a role. -/
def fetch (notary : Notary) (image : Reference) (role : Role) :
    Exchange (Except TrustError Document) :=
  let url := notary.documentUrl image role
  .send ⟨url, none⟩ fun first =>
    match first.bind fun response => if response.status = 401 then response.challenge else none with
    | none => .done (notary.documentOf role url first)
    | some challenge =>
      match notary.tokenUrl challenge with
      | .error e => .done (.error e)
      | .ok endpoint =>
        .send (notary.tokenRequest endpoint) fun second =>
          match notary.tokenOf endpoint second with
          | .error e => .done (.error e)
          | .ok token =>
            .send ⟨url, some (.bearer token)⟩ fun third =>
              .done (notary.documentOf role url third)

end Notary

end SignedAdmission
