import SignedAdmission.Error
import SignedAdmission.Key.P256
import SignedAdmission.Key.Pem
import SignedAdmission.Key.Rsa
import SignedAdmission.Text.Space

/-! What a verification is anchored in: a public key, or a reference to one that only a key
service or an identity provider can resolve. -/
namespace SignedAdmission

inductive TrustRoot where
  | ecdsa (key : P256.Point)
  | rsa (key : Rsa.PublicKey)
  | kms (address : String)
  | keyless (identity : String)

namespace TrustRoot

def kind : TrustRoot → String
  | ecdsa _ => "ecdsa"
  | rsa _ => "rsa"
  | kms _ => "kms"
  | keyless _ => "keyless"

/-- Only a key can verify signatures. -/
def isKey : TrustRoot → Bool
  | ecdsa _ | rsa _ => true
  | kms _ | keyless _ => false

/-- A key in base64 of its encoding, and any other root as it was given. -/
def text : TrustRoot → String
  | ecdsa key => String.ofList (Base64.encode key.der)
  | rsa key => String.ofList (Base64.encode key.der)
  | kms address => address
  | keyless identity => identity

/-- Roots are compared by kind and text. -/
instance : BEq TrustRoot where
  beq a b := a.kind == b.kind && a.text == b.text

def allOf (test : Char → Bool) (cs : List Char) : Bool :=
  !cs.isEmpty && cs.all test

/-- Something that reads like a mail address. -/
def isIdentity (cs : List Char) : Bool :=
  match Text.cut '@' cs with
  | (user, some host) =>
    allOf (fun c => c.isAlphanum || c == '_' || c == '.' || c == '+' || c == '-') user &&
      match Text.cut '.' host with
      | (label, some rest) =>
        allOf (fun c => c.isAlphanum || c == '-') label &&
          allOf (fun c => c.isAlphanum || c == '.' || c == '-') rest
      | (_, none) => false
  | (_, none) => false

def keyServices : List String := ["awskms", "gcpkms", "azurekms", "hashivault", "k8s"]

/-- The name of a key service, a colon, two or three slashes, and a path. -/
def isKeyAddress (cs : List Char) : Bool :=
  match Text.cut ':' cs with
  | (service, some path) =>
    keyServices.contains (String.ofList service) &&
      match path with
      | '/' :: '/' :: rest =>
        allOf (fun c => c.isAlphanum || c == '_' || c == '.' || c == '+' || c == '/' ||
          c == ':' || c == '-') rest
      | _ => false
  | (_, none) => false

/-- A key in a textual document: either algorithm in a public key info, or a plain RSA key. -/
def ofPem? (cs : List Char) : Option TrustRoot :=
  let info := Pem.decode? "PUBLIC KEY" cs
  let plain := Pem.decode? "RSA PUBLIC KEY" cs
  (((info.bind P256.Point.ofDer?).map ecdsa).or
    ((info.bind Rsa.PublicKey.ofInfo?).map rsa)).or
    ((plain.bind Rsa.PublicKey.ofDer?).map rsa)

/-- The root that a text names, with white space around it passed over. -/
def parse (text : String) : Except KeyFault TrustRoot :=
  let cs := Text.trim text.toList
  if isIdentity cs then .ok (keyless (String.ofList cs))
  else if isKeyAddress cs then .ok (kms (String.ofList cs))
  else
    match ofPem? cs with
    | some root => .ok root
    | none => .error .unrecognised

def pemStart : List Char := "-----BEGIN".toList

/-- Either algorithm in a public key info. -/
def ofInfo? (bytes : List UInt8) : Option TrustRoot :=
  ((P256.Point.ofDer? bytes).map ecdsa).or ((Rsa.PublicKey.ofInfo? bytes).map rsa)

/-- A key as trust data lists it: base64 of a public key info or of a textual document, or that
document itself. White space inside the base64 text is passed over. -/
def ofListed (text : String) : Except KeyFault TrustRoot :=
  if pemStart.isPrefixOf (Text.trimStart text.toList) then parse text
  else
    match Base64.decode? (Text.withoutSpaces text.toList) with
    | none => .error .base64
    | some bytes =>
      if (String.ofList pemStart).toUTF8.toList.isPrefixOf bytes then
        match String.fromUTF8? bytes.toByteArray with
        | some pem => parse pem
        | none => .error .pem
      else
        match ofInfo? bytes with
        | some root => .ok root
        | none => .error .algorithm

/-- Checks a signature of a message. -/
def verify (root : TrustRoot) (message signature : List UInt8) : Except TrustError Unit :=
  match root with
  | ecdsa key =>
    match P256.Signature.ofBytes? signature with
    | none => .error (.rejected .malformedSignature)
    | some s => if P256.verifies key message s then .ok () else .error (.rejected .badSignature)
  | rsa key =>
    if Rsa.verifies key message signature then .ok () else .error (.rejected .badSignature)
  | other => .error (.unusableRoot other.kind)

end TrustRoot

end SignedAdmission
