import SignedAdmission.Proofs.Reference.Pinned
import SignedAdmission.Proofs.TrustData.ChainOfTrust

/-! The digests that are found for images. They are texts of the bytes that a document signs, and
these are as many as a digest has wherever the image itself names a digest. -/
namespace SignedAdmission

/-- A listed digest is the text of the bytes that some tag is signed for. An image that names a
digest fixes their number. -/
theorem Document.Lists.exists_bytes {document : Document} {image : Reference} {digest : String}
    (h : document.Lists image digest) (formed : image.WellFormed) :
    ∃ tag target bytes, (tag, target) ∈ document.targets ∧ target.bytes? = some bytes ∧
      digest = String.ofList (Hex.encode bytes) ∧
      (image.digest ≠ none → bytes.length = Reference.digestBytes) := by
  cases h with
  | @byTag tag target bytes tagged listed signed same =>
    obtain ⟨before, after, split, -⟩ := List.lookup_eq_some_iff.mp listed
    refine ⟨tag, target, bytes, by simp [split], signed, rfl, fun named => ?_⟩
    obtain ⟨requested, asked⟩ := Option.ne_none_iff_exists'.mp named
    have valid := formed.digest requested asked
    rw [same requested asked, String.toList_ofList] at valid
    exact Reference.isDigest_encode.mp valid
  | @byDigest digest tag target bytes untagged requested listed signed decoded =>
    obtain ⟨same, length⟩ := Reference.encode_of_isDigest (formed.digest digest requested) decoded
    exact ⟨tag, target, bytes, listed, signed, by rw [same, String.ofList_toList], fun _ => length⟩

namespace Chain

variable {suite : Suite} {now : Instant} {strict : Bool} {served : Served} {root : TrustRoot}
  {required : List Role} {image : Reference} {text digest : String}

/-- What is found for an image is the text of signed bytes. It is a digest, and the image pinned to
it is a reference again, exactly if the bytes are as many as a digest has. Nothing but a digest that
the image itself names makes sure of that. -/
theorem resolved_isDigest_iff (parsed : Reference.parse text = .ok image)
    (h : (validate suite now strict served.fetch root required image).result = .ok digest) :
    ∃ documents, ChainOfTrust suite now served root required documents ∧
      ∃ deciding,
        Deciding served.fetch documents.targets (consulted documents.targets required) deciding ∧
        ∃ document ∈ deciding, document.Lists image digest ∧
          ∃ tag target bytes, (tag, target) ∈ document.targets ∧ target.bytes? = some bytes ∧
            digest = String.ofList (Hex.encode bytes) ∧
            (Reference.isDigest digest.toList = true ↔ bytes.length = Reference.digestBytes) ∧
            (Reference.parse (image.setDigest digest).canonical = .ok (image.setDigest digest) ↔
              bytes.length = Reference.digestBytes ∧
                image.repositoryPath.length ≤ Reference.maxNameLength) ∧
            (image.digest ≠ none → bytes.length = Reference.digestBytes) := by
  have formed := Reference.wellFormed_of_parse parsed
  obtain ⟨documents, deciding, found, chain, decided, searched, agreed, -⟩ := exists_decision h
  obtain ⟨document, decides, listed⟩ := (lists_of_agree searched agreed).1
  obtain ⟨tag, target, bytes, member, signed, rfl, named⟩ := listed.exists_bytes formed
  refine ⟨documents, chain, deciding, decided, document, decides, listed, tag, target, bytes,
    member, signed, rfl, ?_, formed.parse_pinned, named⟩
  rw [String.toList_ofList]
  exact Reference.isDigest_encode

theorem parse_sampleImage : Reference.parse "image:v1" = .ok Publication.sampleImage :=
  Reference.parse_eq_ok.mpr (by decide +kernel)

theorem resolved_isDigest_of_sampleServed :
    Reference.parse "image:v1" = .ok Publication.sampleImage ∧
      Publication.sampleResult Publication.sampleServed [] =
        .ok Publication.sample.releasedDigest ∧
      ∃ documents, ChainOfTrust Publication.sample.publisher.suite (.ofSeconds 0)
          Publication.sampleServed Publication.sample.publisher.key [] documents ∧
        ∃ deciding, Deciding Publication.sampleServed.fetch documents.targets
            (consulted documents.targets []) deciding ∧
          ∃ document ∈ deciding,
            document.Lists Publication.sampleImage Publication.sample.releasedDigest ∧
            ∃ tag target bytes, (tag, target) ∈ document.targets ∧ target.bytes? = some bytes ∧
              Publication.sample.releasedDigest = String.ofList (Hex.encode bytes) ∧
              (Reference.isDigest Publication.sample.releasedDigest.toList = true ↔
                bytes.length = Reference.digestBytes) ∧
              (Reference.parse (Publication.sampleImage.setDigest
                    Publication.sample.releasedDigest).canonical =
                  .ok (Publication.sampleImage.setDigest Publication.sample.releasedDigest) ↔
                bytes.length = Reference.digestBytes ∧
                  Publication.sampleImage.repositoryPath.length ≤ Reference.maxNameLength) ∧
              (Publication.sampleImage.digest ≠ none → bytes.length = Reference.digestBytes) := by
  have resolved := Publication.sampleResult_published (.inl rfl)
  refine ⟨parse_sampleImage, resolved, ?_⟩
  rw [Publication.sampleResult] at resolved
  exact resolved_isDigest_iff parse_sampleImage resolved

/-- The sample with three bytes in place of the digest that is released. -/
def truncatedSample : Publication :=
  { Publication.sample with released := [0xd1, 0xd2, 0xd3] }

theorem truncated_digest_resolved :
    Reference.parse "image:v1" = .ok Publication.sampleImage ∧
      (validate truncatedSample.publisher.suite (.ofSeconds 0) false
          (truncatedSample.served (.ok truncatedSample.releases.envelope)).fetch
          truncatedSample.publisher.key [] Publication.sampleImage).result = .ok "d1d2d3" ∧
      Reference.isDigest "d1d2d3".toList = false ∧
      Reference.parse (Publication.sampleImage.setDigest "d1d2d3").canonical =
        .error (.reference (Publication.sampleImage.setDigest "d1d2d3").canonical) := by
  have written : truncatedSample.releasedDigest = "d1d2d3" := by decide +kernel
  refine ⟨parse_sampleImage, ?_, by decide +kernel, Reference.parse_of_none (by decide +kernel)⟩
  rw [← written]
  exact Publication.validate_published (by decide) (.inl rfl) rfl rfl

end Chain

end SignedAdmission
