import SignedAdmission.Bytes.Hex
import SignedAdmission.Json.Decoder
import SignedAdmission.Role.Basic

/-! Why an image is not trusted. Each cause carries what its message names. Where a text, a date, a
signature or the like is refused by its reader, the message shows a mark in angle brackets in place
of the reader's own complaint. -/
namespace SignedAdmission

/-- Why key material cannot be loaded. -/
inductive KeyFault where
  | unrecognised
  | base64
  | pem
  | algorithm
deriving DecidableEq, Repr

/-- Data that does not have the form it must have. -/
inductive FormatError where
  | key (fault : KeyFault)
  | storedKey (id : String) (fault : KeyFault)
  | role (text : String)
  | documentText (role : Role)
  | documentShape (role : Role) (error : Json.ShapeError)
  | documentUnsigned (role : Role)
  | payloadShape (role : Role) (error : Json.ShapeError)
  | expiry (role : Role)
  | hashBase64 (role : Role)
  | tagBase64 (tag : String)
  | digestHex (digest : String) (fault : Hex.Fault)
  | ruleArguments (error : Json.ShapeError)
  | insecureRealm (notary : String)
  | challengeAscii
  | token
  | certificate (notary : String)
  | validatorSettings (name : String) (error : Json.ShapeError)
  | validatorName (name : String)
  | pattern (pattern : String)

/-- Something that was looked for in vain. -/
inductive Missing where
  | key (id : String)
  | hash (role : String)
  | tag (tag : String)
  | delegations
  | declaredRoles (roles : List String)
  | roleDocuments (roles : List String) (image : String)
  | digests
  | digest (image : String)
  | trustRoot (name notary : String)
  | realm (notary : String)
  | tokenEndpoint (url : String)
  | token (url : String)
  | document (role : Role) (notary : Option String)
  | validator (name : String)
deriving DecidableEq, Repr

/-- A check that an image or a document did not pass. -/
inductive Rejection where
  | denied
  | malformedSignature
  | badSignature
  | signatureBase64 (role : Role)
  | signature (role : Role)
  | expired (role : Role)
  | hash (role : Role)
  | tagAndDigest (tag signed requested : String)
deriving DecidableEq, Repr

inductive TrustError where
  | reference (image : String)
  | format (error : FormatError)
  | missing (what : Missing)
  | noMatchingRule (image : String)
  | unusableRoot (kind : String)
  | authenticationType (name : String)
  | pathTraversal (url : String)
  | ambiguousDigest (image : String)
  | insufficientTrustData (image : String)
  | unauthorized (notary url : String)
  | rejected (reason : Rejection)
  | validatorType (name : String)
  | http (url : String)

def KeyFault.message : KeyFault → String
  | unrecognised => "unable to load trust root"
  | base64 => "key is not valid base64: <base64>"
  | pem => "key is not valid PEM"
  | algorithm => "key is neither an ECDSA nor an RSA public key"

def FormatError.detail : FormatError → String
  | .key fault => fault.message
  | storedKey id fault =>
    "key " ++ id ++ " has an invalid format: invalid format: " ++ fault.message
  | role text => text ++ " is not a valid TUF role"
  | documentText r => "trust data " ++ r.text ++ ": <json>"
  | documentShape r error => "trust data " ++ r.text ++ ": " ++ error.message
  | documentUnsigned r => "trust data " ++ r.text ++ " carries no signatures"
  | payloadShape r error =>
    "trust data " ++ r.text ++ " has an invalid format: " ++ error.message
  | expiry r => "trust data " ++ r.text ++ " expiry: <date>"
  | hashBase64 r => "hash of " ++ r.text ++ " is not base64: <base64>"
  | tagBase64 tag => "digest of tag " ++ tag ++ ": <base64>"
  | digestHex digest fault => "digest " ++ digest ++ ": " ++ fault.message
  | ruleArguments error => "notary rule arguments: " ++ error.message
  | insecureRealm notary =>
    "authentication through insecure channel for notary " ++ notary ++ " is prohibited"
  | challengeAscii => "auth header is not valid ASCII"
  | token => "authentication token has an invalid format"
  | certificate notary => "http client of notary " ++ notary ++ ": <http>"
  | validatorSettings name error =>
    "configuration of validator " ++ name ++ ": " ++ error.message
  | validatorName name => "validator name " ++ name ++ " is used more than once"
  | pattern p => "policy pattern " ++ p ++ ": <regex>"

def Missing.message : Missing → String
  | key id => "unable to find key " ++ id ++ " in keystore"
  | hash r => "unable to find hash for " ++ r ++ " in keystore"
  | tag t => "unable to find digest for tag " ++ t
  | delegations => "unable to find any delegations in trust data"
  | declaredRoles roles =>
    "unable to find delegation roles " ++ Text.quotedList roles ++ " in trust data"
  | roleDocuments roles image =>
    "unable to find trust data for delegation roles " ++ Text.quotedList roles ++ " and image " ++
      image
  | digests => "unable to find any image digests in trust data"
  | digest image => "unable to find signed digest for image " ++ image
  | trustRoot name notary =>
    "trust root \"" ++ name ++ "\" not configured for validator \"" ++ notary ++ "\""
  | realm notary => "unable to find authentication realm in auth header for notary " ++ notary
  | tokenEndpoint url => "unable to get authentication token from " ++ url
  | token url => "unable to retrieve authentication token from " ++ url ++ " response"
  | document r none => "unable to get " ++ r.text ++ " trust data"
  | document r (some notary) => "unable to get " ++ r.text ++ " trust data from " ++ notary
  | validator name => "unable to find validator " ++ name

def Rejection.detail : Rejection → String
  | denied => "static deny"
  | malformedSignature => "malformed signature: <crypto>"
  | badSignature => "bad signature: <crypto>"
  | signatureBase64 r => "signature of trust data " ++ r.text ++ " is not base64: <base64>"
  | signature r => "failed to verify signature of trust data " ++ r.text
  | expired r => "trust data " ++ r.text ++ " has expired"
  | hash r => "failed to validate hash of trust data " ++ r.text
  | tagAndDigest tag signed requested =>
    "image tag and digest do not match: tag " ++ tag ++ " is signed for " ++ signed ++ ", " ++
      requested ++ " was requested"

def TrustError.message : TrustError → String
  | reference image => image ++ " is not a valid image reference"
  | format error => "invalid format: " ++ error.detail
  | missing what => what.message
  | noMatchingRule image => "no matching policy rule could be found for image " ++ image
  | unusableRoot kind => "trust root of type " ++ kind ++ " is not supported for this operation"
  | authenticationType name => name ++ " is an unsupported authentication type"
  | pathTraversal url => "potential path traversal in authentication url " ++ url
  | ambiguousDigest image => "found multiple signed digests for image " ++ image
  | insufficientTrustData image =>
    "not all required delegations have trust data for image " ++ image
  | unauthorized notary url =>
    "unauthorized: notary " ++ notary ++ " was refused a token by " ++ url
  | rejected reason => "validation failed: " ++ reason.detail
  | validatorType name => name ++ " is not a supported validator type"
  | http url => "http request to " ++ url ++ " failed"

end SignedAdmission
