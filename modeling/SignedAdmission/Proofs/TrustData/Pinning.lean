import SignedAdmission.Proofs.TrustData.Digest

/-! Images that are pinned to the digest that is found for them. Every document that decides has
that digest for the image or none, and says the same once the image names the digest itself, so that
the pinned image is found to be signed for the same digest. -/
namespace SignedAdmission

open Checks

namespace Document.Lists

variable {document : Document} {image : Reference} {digest : String}

/-- A listed digest is written in lowercase digits and is taken over unchanged. -/
theorem setDigest (listed : document.Lists image digest) (formed : image.WellFormed) :
    image.setDigest digest = { image with digest := some digest } := by
  obtain ⟨-, -, bytes, -, -, rfl, -⟩ := listed.exists_bytes formed
  exact Reference.setDigest_encode image bytes

/-- Without a tag, only the digest that the image itself names can be listed for it. -/
theorem digest_of_untagged (listed : document.Lists image digest) (untagged : image.tag = none) :
    image.digest = some digest := by
  cases listed with
  | byTag tagged => simp [untagged] at tagged
  | byDigest _ requested => exact requested

end Document.Lists

namespace Chain

section Searching

variable {targets : List (String × Target)} {image : Reference} {digest : String}
  {result : Option String}

/-- What signed tags say about a tagged image they also say if the image names a digest, as long as
they have no other one for it. -/
theorem search_naming (tagged : image.tag ≠ none) (found : search targets image = .ok result)
    (same : ∀ other, result = some other → other = digest) :
    search targets { image with digest := some digest } = .ok result := by
  obtain ⟨tag, tagged⟩ := Option.ne_none_iff_exists'.mp tagged
  simp only [search, tagged] at found ⊢
  cases signed : (targets.lookup tag).bind Target.sha256? with
  | none => simpa only [signed] using found
  | some text =>
    simp only [signed] at found ⊢
    cases decoded : Base64.decode? text.toList with
    | none => simp [decoded] at found
    | some bytes =>
      simp only [decoded] at found ⊢
      have listed : result = some (String.ofList (Hex.encode bytes)) := by
        cases asked : image.digest with
        | none => simpa [asked, eq_comm] using found
        | some requested =>
          simp only [asked] at found
          split at found
          · simpa [eq_comm] using found
          · contradiction
      rw [← same _ listed, if_pos rfl, listed]

/-- What signed tags say about an image they also say about the pinned one. -/
theorem search_pinned {document : Document} (formed : image.WellFormed)
    (listed : document.Lists image digest) (found : search targets image = .ok result)
    (same : ∀ other, result = some other → other = digest) :
    search targets (image.setDigest digest) = .ok result := by
  rw [listed.setDigest formed]
  by_cases untagged : image.tag = none
  · rw [← listed.digest_of_untagged untagged]
    exact found
  · exact search_naming untagged found same

end Searching

section Pinned

variable {suite : Suite} {now : Instant} {strict : Bool} {root : TrustRoot}
  {required : List Role} {image : Reference} {text digest : String}

/-- Over the same documents, the pinned image is found to be signed for the digest it is pinned
to. -/
theorem validate_pinned {fetch : Fetch} (formed : image.WellFormed)
    (h : (validate suite now strict fetch root required image).result = .ok digest) :
    (validate suite now strict fetch root required (image.setDigest digest)).result =
      .ok digest := by
  obtain ⟨start, walked, valid, documents, deciding, tagged, found, searched, agreed⟩ :=
    validate_eq_ok.mp h
  obtain ⟨complete, some_digest, same⟩ := agree_eq_ok.mp agreed
  obtain ⟨document, -, signs⟩ := exists_of_mem_right searched _ some_digest
  have listed := search_eq_some signs
  have searched_pinned : List.Forall₂
      (fun document result => search document.targets (image.setDigest digest) = .ok result)
      documents found := by
    refine forall₂_imp_of_mem searched fun document result member signs => ?_
    exact search_pinned formed listed signs fun other has => same other (has ▸ member)
  have agreed_pinned : agree required (image.setDigest digest) found = .ok digest :=
    agree_eq_ok.mpr ⟨complete, some_digest, same⟩
  exact validate_eq_ok.mpr ⟨start, walked, valid, documents, deciding, tagged, found,
    searched_pinned, agreed_pinned⟩

/-- Where the documents depend on the repository alone, an image that is pinned to the digest found
for it resolves to the same digest again, and so does whatever its canonical text is read as. -/
theorem pinned_resolves {fetcher : Reference → Fetch}
    (located : ∀ a b : Reference, a.repositoryPath = b.repositoryPath → fetcher a = fetcher b)
    (parsed : Reference.parse text = .ok image)
    (h : (validate suite now strict (fetcher image) root required image).result = .ok digest) :
    (validate suite now strict (fetcher (image.setDigest digest)) root required
        (image.setDigest digest)).result = .ok digest ∧
      ∀ again, Reference.parse (image.setDigest digest).canonical = .ok again →
        (validate suite now strict (fetcher again) root required again).result = .ok digest := by
  have formed := Reference.wellFormed_of_parse parsed
  have moved : fetcher (image.setDigest digest) = fetcher image := located _ _ rfl
  have pinned := validate_pinned formed h
  rw [← moved] at pinned
  refine ⟨pinned, fun again read => ?_⟩
  have addressed : (image.setDigest digest).digest ≠ none := by simp [Reference.setDigest]
  obtain rfl := (formed.setDigest digest).eq_of_parse_canonical (fun _ => addressed) read
  exact pinned

/-- Serves the documents of the sample for its repository, and nothing for others. -/
def sampleFetcher (image : Reference) : Fetch :=
  if image.repositoryPath = Publication.sampleImage.repositoryPath then
    Publication.sampleServed.fetch
  else fun role => .error (.missing (.document role none))

theorem pinned_resolves_of_sampleFetcher :
    (∀ a b : Reference, a.repositoryPath = b.repositoryPath →
        sampleFetcher a = sampleFetcher b) ∧
      Reference.parse "image:v1" = .ok Publication.sampleImage ∧
      (validate Publication.sample.publisher.suite (.ofSeconds 0) false
          (sampleFetcher Publication.sampleImage) Publication.sample.publisher.key [.releases]
          Publication.sampleImage).result = .ok Publication.sample.releasedDigest ∧
      (validate Publication.sample.publisher.suite (.ofSeconds 0) false
          (sampleFetcher (Publication.sampleImage.setDigest Publication.sample.releasedDigest))
          Publication.sample.publisher.key [.releases]
          (Publication.sampleImage.setDigest Publication.sample.releasedDigest)).result =
        .ok Publication.sample.releasedDigest ∧
      ∃ again, Reference.parse (Publication.sampleImage.setDigest
          Publication.sample.releasedDigest).canonical = .ok again ∧
        (validate Publication.sample.publisher.suite (.ofSeconds 0) false (sampleFetcher again)
          Publication.sample.publisher.key [.releases] again).result =
            .ok Publication.sample.releasedDigest := by
  have located (a b : Reference) (same : a.repositoryPath = b.repositoryPath) :
      sampleFetcher a = sampleFetcher b := by
    rw [sampleFetcher, same, sampleFetcher]
  have resolved := Publication.sampleResult_published (.inr rfl)
  have served : sampleFetcher Publication.sampleImage = Publication.sampleServed.fetch := if_pos rfl
  rw [Publication.sampleResult, ← served] at resolved
  have formed := Reference.wellFormed_of_parse parse_sampleImage
  have read : Reference.parse (Publication.sampleImage.setDigest
      Publication.sample.releasedDigest).canonical = .ok (Publication.sampleImage.setDigest
        Publication.sample.releasedDigest) :=
    formed.parse_pinned.mpr ⟨List.length_replicate, by decide +kernel⟩
  obtain ⟨pinned, again⟩ := pinned_resolves located parse_sampleImage resolved
  exact ⟨located, parse_sampleImage, resolved, pinned, _, read, again _ read⟩

end Pinned

end Chain

end SignedAdmission
