import SignedAdmission.Proofs.TrustData.Publisher

/-! Trust data of a publisher who uses the default delegation. The targets document lists one tag
and delegates to the default delegation, and that one lists the same tag, possibly for another
digest. -/
namespace SignedAdmission

open Checks Json

namespace Publisher

/-- The default delegation, signed with the pinned key as well. -/
def releasesDelegation : Delegations :=
  ⟨[(KeyStore.pinnedId, ⟨"ecdsa", ""⟩)], [Role.releases.text]⟩

def delegationsJson : Json :=
  .object [
    ("keys", .object [(KeyStore.pinnedId,
      .object [("keytype", .string "ecdsa"), ("keyval", .object [("public", .string "")])])]),
    ("roles", .array [.object [("name", .string Role.releases.text)]])]

theorem decode_releasesDelegation :
    Delegations.decode delegationsJson = .ok releasesDelegation := by
  refine decode_delegations ?_ rfl
  exact Decoder.dictionary_of_sorted (.cons ⟨rfl, rfl⟩ .nil) (List.pairwise_singleton ..)

end Publisher

/-- One tag that is signed for two digests: one in the targets document, and one in the document of
the default delegation. -/
structure Publication where
  publisher : Publisher
  tag : String
  plain : List UInt8
  released : List UInt8

namespace Publication

open Chain Publisher

variable (publication : Publication)

def root : Document :=
  publication.publisher.document .root [("keys", .object [])] (.root [])

def targets : Document :=
  publication.publisher.document .targets
    (tagFields publication.tag publication.plain ++ [("delegations", delegationsJson)])
    (.targets [(publication.tag, targetOf publication.plain)] releasesDelegation)

def releases : Document :=
  publication.publisher.document .releases (tagFields publication.tag publication.released)
    (.targets [(publication.tag, targetOf publication.released)] ⟨[], []⟩)

def listing (role : Role) (documents : List (String × Document)) : Document :=
  publication.publisher.document role (listingFields publication.publisher.suite documents)
    (.listing (listed publication.publisher.suite documents))

def snapshot : Document :=
  publication.listing .snapshot [(Role.root.text, publication.root),
    (Role.targets.text, publication.targets), (Role.releases.text, publication.releases)]

def timestamp : Document :=
  publication.listing .timestamp [(Role.snapshot.text, publication.snapshot)]

def documents : BaseDocuments :=
  ⟨publication.root, publication.snapshot, publication.timestamp, publication.targets⟩

def plainDigest : String :=
  String.ofList (Hex.encode publication.plain)

def releasedDigest : String :=
  String.ofList (Hex.encode publication.released)

/-- The publication with some answer in place of the documents of delegations. -/
def served (answer : Except TrustError Json) : Served
  | .root => .ok publication.root.envelope
  | .snapshot => .ok publication.snapshot.envelope
  | .timestamp => .ok publication.timestamp.envelope
  | .targets => .ok publication.targets.envelope
  | .delegation _ => answer

variable {publication} {answer : Except TrustError Json}

/-- The publication as an edition of one delegation. -/
def edition (publication : Publication) : Edition where
  publisher := publication.publisher
  fields := tagFields publication.tag publication.plain ++ [("delegations", delegationsJson)]
  body := .targets [(publication.tag, targetOf publication.plain)] releasesDelegation
  names := ["releases"]
  tag := publication.tag
  released := publication.released

theorem served_eq (publication : Publication) (answer : Except TrustError Json) :
    publication.served answer = publication.edition.served fun _ => answer := by
  funext role
  cases role <;> rfl

theorem readable (publication : Publication) : publication.edition.Readable where
  others := by simp [edition, tagFields]
  decoded := decodeTargets_delegating _ _ decode_releasesDelegation
  sorted := by
    have sorted : [Role.root.text, Role.targets.text, Role.releases.text].Pairwise (· ≤ ·) := by
      decide
    exact sorted
  loadable := by
    intro entry member
    obtain rfl : entry = (KeyStore.pinnedId, ⟨"ecdsa", ""⟩) := by
      simpa [edition, Edition.targets, document, Document.keys, Document.hasDelegations,
        releasesDelegation] using member
    exact .inl rfl

theorem fetched : Fetched (publication.served answer).fetch publication.documents := by
  rw [served_eq]
  exact publication.readable.fetched

theorem trusted {now : Instant} (early : now.nanoseconds ≤ expires.nanoseconds) :
    Trusted publication.publisher.suite now publication.publisher.key publication.documents :=
  publication.edition.trusted early

theorem consulted_releases (publication : Publication) {required : List Role}
    (default : required = [] ∨ required = [.releases]) :
    consulted publication.edition.targets required = some [.releases] := by
  obtain rfl | rfl := default
  · exact consulted_default rfl
  · exact consulted_of_required (by simp) _

section Resolution

variable {now : Instant} {strict : Bool} {required : List Role} {image : Reference}
  (early : now.nanoseconds ≤ expires.nanoseconds)
  (default : required = [] ∨ required = [.releases])
  (tagged : image.tag = some publication.tag) (undigested : image.digest = none)
include early default tagged undigested

/-- A published image resolves to the digest that the default delegation lists. -/
theorem validate_published :
    (validate publication.publisher.suite now strict
      (publication.served (.ok publication.releases.envelope)).fetch publication.publisher.key
      required image).result = .ok publication.releasedDigest := by
  rw [served_eq]
  have asked : consulted publication.edition.targets required =
      some (["releases"].map Role.delegation) := publication.consulted_releases default
  refine publication.readable.validate_delegated early asked (by simp) ?_ tagged undigested
  intro name member
  obtain rfl := List.mem_singleton.mp member
  exact ⟨List.mem_singleton_self _, List.mem_singleton_self _, rfl⟩

/-- With nothing served for the default delegation, the same image resolves to the digest that the
targets document lists. -/
theorem validate_withheld (e : TrustError) :
    (validate publication.publisher.suite now false (publication.served (.error e)).fetch
      publication.publisher.key required image).result = .ok publication.plainDigest := by
  have asked := publication.consulted_releases default
  have unfetched : (publication.edition.served fun _ => .error e).fetch .releases = .error e := rfl
  have only {role : Role}
      (member : role ∈ (consulted publication.edition.targets required).getD []) :
      role = .releases := by
    simpa [asked] using member
  obtain ⟨store, walked, -, -⟩ := publication.readable.exists_base (fun _ => .error e) early
    fun role member => by rw [only member]; exact List.mem_singleton_self _
  rw [served_eq]
  refine validate_eq_ok.mpr ⟨_, walked, ?_, [publication.targets], asked ▸ .unpublished unfetched,
    ?_, _, .cons (Edition.search_tag tagged undigested publication.plain) .nil, ?_⟩
  · intro role member
    obtain rfl := only member
    simp [unfetched]
  · exact ⟨_, List.mem_singleton_self _, by simp [targets, document, Document.targets]⟩
  · exact agree_eq_ok.mpr (by simp [plainDigest])

end Resolution

theorem isOnCurve_base : P256.isOnCurve P256.baseX P256.baseY = true := by
  decide +kernel

/-- An image that is signed for one digest in the targets document and released with another one,
where signatures repeat the message. -/
def sample : Publication where
  publisher :=
    { suite := { hash := Sha256.digest, verify := fun _ message signature => message == signature }
      key := .ecdsa ⟨P256.baseX, P256.baseY, isOnCurve_base⟩
      sign := id
      honest := by simp }
  tag := "v1"
  plain := List.replicate 32 0xd2
  released := List.replicate 32 0xd1

def sampleImage : Reference := ⟨"docker.io", "library", "image", some "v1", none⟩

/-- The sample as it is published. -/
def sampleServed : Served :=
  sample.served (.ok sample.releases.envelope)

/-- The sample from a server that withholds the document of the default delegation. -/
def sampleWithheld : Served :=
  sample.served (.error (.missing (.document .releases none)))

/-- The digest that is found for the image of the sample without strictness. -/
def sampleResult (served : Served) (required : List Role) : Except TrustError String :=
  (validate sample.publisher.suite (.ofSeconds 0) false served.fetch sample.publisher.key required
    sampleImage).result

theorem sampleResult_published {required : List Role}
    (default : required = [] ∨ required = [.releases]) :
    sampleResult sampleServed required = .ok sample.releasedDigest := by
  rw [sampleResult, sampleServed]
  exact validate_published (by decide) default rfl rfl

theorem sampleResult_withheld {required : List Role}
    (default : required = [] ∨ required = [.releases]) :
    sampleResult sampleWithheld required = .ok sample.plainDigest := by
  rw [sampleResult, sampleWithheld]
  exact validate_withheld (by decide) default rfl rfl _

end Publication

end SignedAdmission
