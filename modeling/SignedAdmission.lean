import SignedAdmission.Main
import SignedAdmission.Proofs.Admission.Answer
import SignedAdmission.Proofs.Admission.Children
import SignedAdmission.Proofs.TrustData.Delegation
import SignedAdmission.Proofs.TrustData.Digest
import SignedAdmission.Proofs.TrustData.Signers
import SignedAdmission.Proofs.Policy.Choice
import SignedAdmission.Proofs.Policy.Bracket
import SignedAdmission.Proofs.Policy.Exact
import SignedAdmission.Proofs.Reference.Defaults
import SignedAdmission.Proofs.Reference.Registry
import SignedAdmission.Proofs.Reference.Identity
import SignedAdmission.Proofs.TrustData.Pinning
import SignedAdmission.Proofs.TrustData.Comparison
import SignedAdmission.Proofs.TrustData.KeyStoreRun
import SignedAdmission.Proofs.TrustData.Binding
import SignedAdmission.Proofs.TrustData.Agreement
import SignedAdmission.Proofs.Notary.Conversation
import SignedAdmission.Proofs.Notary.Challenge
import SignedAdmission.Proofs.Notary.Parameters
import SignedAdmission.Proofs.Key.Equality
import SignedAdmission.Proofs.Key.Forms
import SignedAdmission.Proofs.TrustData.Usability
import SignedAdmission.Proofs.Workload.Paths
import SignedAdmission.Proofs.Admission.Unchanged
import SignedAdmission.Proofs.TrustData.Absence
import SignedAdmission.Proofs.Notary.Address
import SignedAdmission.Proofs.Admission.Identifier
import SignedAdmission.Proofs.Role.Naming
