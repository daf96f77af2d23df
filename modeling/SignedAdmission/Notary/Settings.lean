import SignedAdmission.Key.Der
import SignedAdmission.Key.Pem
import SignedAdmission.Error

/-! What is configured about one notary. -/
namespace SignedAdmission

structure NamedRoot where
  name : String
  key : String
deriving DecidableEq, Repr

structure Credentials where
  username : String
  password : String
deriving DecidableEq, Repr

structure NotarySettings where
  host : String
  trustRoots : List NamedRoot
  credentials : Option Credentials
  /-- A certificate that the notary and its token endpoint are trusted by. -/
  certificate : Option String
  /-- Registries of this kind name their tokens differently and have no health endpoint. -/
  isAcr : Bool
deriving DecidableEq, Repr

namespace NotarySettings

open Json

def decodeRoot (value : Json) : Except ShapeError NamedRoot := do
  let name : RecordField String := { name := "name", decode := Decoder.string }
  let key : RecordField String := { name := "key", decode := Decoder.string }
  let slots ← Record.slots "NamedTrustRoot" [name.rule, key.rule] value
  return { name := ← name.get slots, key := ← key.get slots }

def decodeCredentials (value : Json) : Except ShapeError Credentials := do
  let username : RecordField String := { name := "username", decode := Decoder.string }
  let password : RecordField String := { name := "password", decode := Decoder.string }
  let slots ← Record.slots "BasicAuth" [username.rule, password.rule] value
  return { username := ← username.get slots, password := ← password.get slots }

def decode (value : Json) : Except ShapeError NotarySettings := do
  let host : RecordField String := { name := "host", decode := Decoder.string }
  let trustRoots : RecordField (List NamedRoot) :=
    { name := "trustRoots", decode := Decoder.list decodeRoot, absence := .anywhere []
      aliases := ["trust_roots"] }
  let credentials : RecordField (Option Credentials) :=
    { name := "auth", decode := Decoder.optional decodeCredentials, absence := .anywhere none }
  let certificate : RecordField (Option String) :=
    { name := "cert", decode := Decoder.optional Decoder.string, absence := .anywhere none }
  let isAcr : RecordField Bool :=
    { name := "isAcr", decode := Decoder.boolean, absence := .anywhere false
      aliases := ["is_acr"] }
  let slots ← Record.slots "NotaryConfig"
    [host.rule, trustRoots.rule, credentials.rule, certificate.rule, isAcr.rule] value
  return {
    host := ← host.get slots
    trustRoots := ← trustRoots.get slots
    credentials := ← credentials.get slots
    certificate := ← certificate.get slots
    isAcr := ← isAcr.get slots }

end NotarySettings

namespace Certificate

def label : List Char := "CERTIFICATE".toList

/-- The outer shape of a certificate: its content, an algorithm, and the bits of a signature. -/
def isShaped (der : List UInt8) : Bool :=
  Option.isSome do
    let body ← Der.only? Der.sequenceTag der
    let (_, rest) ← Der.tagged? Der.sequenceTag body
    let (_, rest) ← Der.tagged? Der.sequenceTag rest
    Der.only? Der.bitStringTag rest

def trimEnd (line : List Char) : List Char :=
  (line.reverse.dropWhile fun c => c == ' ' || c == '\r' || c == '\n').reverse

/-- The label of a line that opens a section: none if the line opens nothing, and no label if its
end is not as it must be. -/
def opening? (line : List Char) : Option (Option (List Char)) :=
  (Text.dropStart? Pem.beginBoundary line).map fun rest =>
    let rest := trimEnd rest
    let label := (rest.reverse.dropWhile (· == '-')).reverse
    if rest.length = label.length + Pem.dashes.length then some label else none

/-- Walks the lines of a bundle, with the section that is open and its text so far. Text outside of
sections is passed over; every section must end and hold base64, and every certificate must have
the shape of one. -/
def areAcceptable (section? : Option (List Char × List Char)) : List (List Char) → Bool
  | [] => section?.isNone
  | line :: lines =>
    match opening? line with
    | some none => false
    | some (some label) => areAcceptable (some (label, [])) lines
    | none =>
      match section? with
      | none => areAcceptable none lines
      | some (opened, text) =>
        if (Pem.endBoundary ++ opened ++ Pem.dashes).isPrefixOf line then
          match Base64.decode? text with
          | none => false
          | some der => (opened != label || isShaped der) && areAcceptable none lines
        else areAcceptable (some (opened, text ++ trimEnd line)) lines

/-- Whether a bundle of certificates can be used; it may hold none. -/
def isBundle (text : String) : Bool :=
  areAcceptable none (Text.split '\n' text.toList)

end Certificate

end SignedAdmission
