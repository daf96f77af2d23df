import SignedAdmission.Notary.Fetch
import SignedAdmission.Role.Parse
import SignedAdmission.TrustData.Chain
import SignedAdmission.Validator.Basic

/-! The validator that resolves digests from the documents of a notary. -/
namespace SignedAdmission

/-- What verifications depend on besides the image. -/
structure Environment where
  suite : Suite
  now : Instant
  /-- Whether a delegation that cannot be fetched is an error. -/
  strict : Bool
  server : Server

/-- The arguments of a rule that a notary understands. -/
structure NotaryArguments where
  trustRoot : Option String
  delegations : List String
deriving DecidableEq, Repr

open Json in
def NotaryArguments.decode (value : Json) : Except ShapeError NotaryArguments := do
  let trustRoot : RecordField (Option String) :=
    { name := "trustRoot", decode := Decoder.optional Decoder.string, absence := .anywhere none
      aliases := ["key"] }
  let delegations : RecordField (List String) :=
    { name := "delegations", decode := Decoder.list Decoder.string, absence := .anywhere [] }
  let slots ← Record.slots "NotaryArgs" [trustRoot.rule, delegations.rule] value
  return { trustRoot := ← trustRoot.get slots, delegations := ← delegations.get slots }

namespace Notary

/-- The key to start from and the delegations that are required. -/
def anchor (notary : Notary) (arguments : Json.Fields) :
    Except TrustError (TrustRoot × List Role) := do
  let arguments ← (NotaryArguments.decode (.object arguments)).mapError fun e =>
    .format (.ruleArguments e)
  let root ← (TrustRoot.parse (← notary.rootText arguments.trustRoot)).mapError fun fault =>
    .format (.key fault)
  if !root.isKey then throw (.unusableRoot root.kind)
  return (root, ← arguments.delegations.mapM Role.parseDelegation)

def verification (env : Environment) (notary : Notary) (image : Reference)
    (arguments : Json.Fields) : Verification :=
  match notary.anchor arguments with
  | .error e => .finished (.error e)
  | .ok (root, required) =>
    let fetch : Chain.Fetch := fun role => (notary.fetch image role).run env.server []
    let outcome := Chain.validate env.suite env.now env.strict fetch root required image
    { outcome := some (outcome.result.map some), warnings := outcome.warnings, atOnce := false }

def validator (env : Environment) (notary : Notary) : Validator where
  name := notary.name
  verify := notary.verification env
  healthy := notary.healthy.run env.server []

end Notary

end SignedAdmission
