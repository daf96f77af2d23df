import SignedAdmission.Key.TrustRoot

/-! The two cryptographic functions that validation rests on. -/
namespace SignedAdmission

structure Suite where
  hash : List UInt8 → List UInt8
  /-- Whether a signature of a message verifies under a root. -/
  verify : TrustRoot → List UInt8 → List UInt8 → Bool

/-- SHA-256, and the signature algorithm of each key. -/
def Suite.standard : Suite where
  hash := Sha256.digest
  verify root message signature := (root.verify message signature).isOk

end SignedAdmission
