import SignedAdmission.Text.Lowercase
import SignedAdmission.Text.Split

/-! References to container images, with registry and repository written out. -/
namespace SignedAdmission

structure Reference where
  registry : String
  /-- The path between registry and name, possibly empty. -/
  repository : String
  name : String
  tag : Option String
  /-- The SHA-256 digest in hexadecimal digits. -/
  digest : Option String
deriving DecidableEq, Repr

namespace Reference

def digestStart : String := "sha256:"

/-- Registry, repository and name, without tag and digest. -/
def repositoryPath (r : Reference) : String :=
  if r.repository = "" then r.registry ++ "/" ++ r.name
  else r.registry ++ "/" ++ r.repository ++ "/" ++ r.name

/-- The one text that stands for a reference. -/
def canonical (r : Reference) : String :=
  r.repositoryPath ++
    (match r.tag with | some tag => ":" ++ tag | none => "") ++
    (match r.digest with | some digest => "@" ++ digestStart ++ digest | none => "")

/-- Pins a reference to a digest, given with or without `sha256:` in front. The tag stays, so that
the reference still shows what was asked for. -/
def setDigest (r : Reference) (digest : String) : Reference :=
  let digits := (Text.dropStart? digestStart.toList digest.toList).getD digest.toList
  { r with digest := some (String.ofList (Text.lowercase digits)) }

end Reference

end SignedAdmission
