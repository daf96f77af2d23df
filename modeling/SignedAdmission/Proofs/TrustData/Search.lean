import SignedAdmission.Proofs.Bytes.Strict
import SignedAdmission.Proofs.Reference.Pinned
import SignedAdmission.Proofs.TrustData.Publication

/-! Searching signed tags. A document lists an image for a digest, refuses it, or says nothing about
it. Searching for a digest finds just the tags that give the digest when they are searched for
themselves. -/
namespace SignedAdmission

open Checks

/-- A tag is signed for bytes in their one accepted text. -/
theorem Target.bytes?_eq_some {target : Target} {bytes : List UInt8} :
    target.bytes? = some bytes ↔
      target.sha256? = some (String.ofList (Base64.encode bytes)) := by
  simp only [bytes?, Option.bind_eq_some_iff, Base64.decode?_eq_some_iff]
  constructor
  · rintro ⟨text, signed, written⟩
    rw [signed, ← written, String.ofList_toList]
  · intro signed
    exact ⟨_, signed, String.toList_ofList⟩

/-- Why a document is no basis for a decision about an image: the tag is signed for no bytes at all,
or not for the digest that the image also names, or the image names no digest that can be read. -/
inductive Document.Refuses (document : Document) (image : Reference) : TrustError → Prop
  | undecodable {tag target text} (tagged : image.tag = some tag)
    (listed : document.targets.lookup tag = some target) (hash : target.sha256? = some text)
    (undecodable : Base64.decode? text.toList = none) :
    Refuses document image (.format (.tagBase64 tag))
  | conflicting {tag target bytes requested} (tagged : image.tag = some tag)
    (listed : document.targets.lookup tag = some target) (signed : target.bytes? = some bytes)
    (asked : image.digest = some requested) (other : requested ≠ String.ofList (Hex.encode bytes)) :
    Refuses document image
      (.rejected (.tagAndDigest tag (String.ofList (Hex.encode bytes)) requested))
  | unreadable {digest fault} (untagged : image.tag = none) (asked : image.digest = some digest)
    (unread : Hex.decode digest.toList = .error fault) :
    Refuses document image (.format (.digestHex digest fault))

namespace Chain

section Documents

variable {document : Document} {image : Reference} {digest : String} {e : TrustError}

theorem search_eq_ok_some :
    search document.targets image = .ok (some digest) ↔ document.Lists image digest := by
  constructor
  · exact search_eq_some
  · intro listed
    cases listed with
    | byTag tagged listed signed same =>
      rw [Target.bytes?_eq_some] at signed
      simp only [search, tagged, listed, signed, Option.bind_some, String.toList_ofList,
        Base64.decode?_encode]
      cases asked : image.digest with
      | none => rfl
      | some requested => simp [same requested asked]
    | byDigest untagged asked listed signed decoded =>
      rw [Target.bytes?_eq_some] at signed
      simp only [search, untagged, asked, decoded]
      rw [if_pos]
      rw [List.any_eq_true]
      exact ⟨_, listed, beq_iff_eq.mpr signed⟩

theorem search_eq_error :
    search document.targets image = .error e ↔ document.Refuses image e := by
  constructor
  · intro failed
    rw [search] at failed
    split at failed
    case h_1 tag tagged =>
      split at failed
      case h_1 => contradiction
      case h_2 text found =>
        obtain ⟨target, listed, hash⟩ := Option.bind_eq_some_iff.mp found
        split at failed
        case h_1 undecodable =>
          obtain rfl := Except.error.inj failed
          exact .undecodable tagged listed hash undecodable
        case h_2 bytes decoded =>
          have signed : target.bytes? = some bytes := by simp [Target.bytes?, hash, decoded]
          split at failed
          case h_1 requested asked =>
            simp only at failed
            split at failed
            case isTrue => contradiction
            case isFalse other =>
              obtain rfl := Except.error.inj failed
              exact .conflicting tagged listed signed asked other
          case h_2 => contradiction
    case h_2 requested untagged asked =>
      split at failed
      case h_1 fault unread =>
        obtain rfl := Except.error.inj failed
        exact .unreadable untagged asked unread
      case h_2 =>
        simp only at failed
        split at failed <;> contradiction
    case h_3 => contradiction
  · intro refused
    cases refused with
    | undecodable tagged listed hash undecodable =>
      simp [search, tagged, listed, hash, undecodable]
    | conflicting tagged listed signed asked other =>
      rw [Target.bytes?_eq_some] at signed
      simp [search, tagged, listed, signed, asked, other, Base64.decode?_encode]
    | unreadable untagged asked unread => simp [search, untagged, asked, unread]

/-- A document that neither refuses an image nor lists it says nothing about it. -/
theorem exists_search (trusted : ∀ e, ¬ document.Refuses image e) :
    ∃ result, search document.targets image = .ok result ∧
      ∀ digest, result = some digest ↔ document.Lists image digest := by
  cases found : search document.targets image with
  | error e => exact absurd (search_eq_error.mp found) (trusted e)
  | ok result =>
    refine ⟨result, rfl, ?_⟩
    intro digest
    rw [← search_eq_ok_some, found, Except.ok.injEq]

end Documents

section Addressing

variable {targets : List (String × Target)} {image : Reference} {tag digest : String}
  {bytes : List UInt8}

theorem search_of_tag (tagged : image.tag = some tag) (undigested : image.digest = none) :
    search targets image = .ok (some digest) ↔
      ∃ target bytes, targets.lookup tag = some target ∧ target.bytes? = some bytes ∧
        digest = String.ofList (Hex.encode bytes) := by
  rw [search, tagged, undigested]
  simp only [Target.bytes?]
  cases listed : targets.lookup tag with
  | none => simp
  | some target =>
    cases signed : target.sha256? with
    | none => simp [signed]
    | some text => cases decoded : Base64.decode? text.toList <;> simp [signed, decoded, eq_comm]

theorem search_of_digest (untagged : image.tag = none) (asked : image.digest = some digest)
    (read : Hex.decode digest.toList = .ok bytes) :
    search targets image =
      .ok (if targets.any fun (_, target) => target.bytes? == some bytes then some digest
        else none) := by
  have signs : (fun entry : String × Target =>
      entry.2.sha256? == some (String.ofList (Base64.encode bytes))) =
        fun entry => entry.2.bytes? == some bytes := by
    funext entry
    rw [Bool.eq_iff_iff, beq_iff_eq, beq_iff_eq, Target.bytes?_eq_some]
  simp only [search, untagged, asked, read, signs]
  split <;> rfl

/-- A digest is found exactly if some tag is signed for its bytes, that is, if searching for that
tag gives the digest. Otherwise nothing is found, whatever else is signed for other tags. -/
theorem digest_search_agrees (distinct : (targets.map Prod.fst).Nodup)
    (valid : Reference.isDigest digest.toList = true) (image : Reference) :
    ∃ bytes, Hex.decode digest.toList = .ok bytes ∧
      (∀ tag target, (tag, target) ∈ targets →
        (search targets { image with tag := some tag, digest := none } = .ok (some digest) ↔
          target.bytes? = some bytes)) ∧
      (search targets { image with tag := none, digest := some digest } = .ok (some digest) ↔
        ∃ tag target, (tag, target) ∈ targets ∧ target.bytes? = some bytes) ∧
      (search targets { image with tag := none, digest := some digest } = .ok none ↔
        ∀ tag target, (tag, target) ∈ targets → target.bytes? ≠ some bytes) := by
  obtain ⟨bytes, written, -⟩ := Reference.exists_of_isDigest valid
  have read : Hex.decode digest.toList = .ok bytes := by rw [written, Hex.decode_encode]
  have found : (targets.any fun (_, target) => target.bytes? == some bytes) = true ↔
      ∃ tag target, (tag, target) ∈ targets ∧ target.bytes? = some bytes := by
    simp
  refine ⟨bytes, read, ?_, ?_, ?_⟩
  · intro tag target listed
    rw [search_of_tag rfl rfl, (lookup_eq_some_iff_mem distinct).mpr listed]
    constructor
    · rintro ⟨_, others, ⟨⟩, signed, same⟩
      rw [same, String.toList_ofList] at written
      rwa [← Hex.encode_injective written]
    · intro signed
      exact ⟨target, bytes, rfl, signed, by rw [← written, String.ofList_toList]⟩
  · rw [search_of_digest rfl rfl read, ← found]
    split <;> simp [*]
  · have unlisted : (∀ tag target, (tag, target) ∈ targets → target.bytes? ≠ some bytes) ↔
        ¬ ∃ tag target, (tag, target) ∈ targets ∧ target.bytes? = some bytes := by
      push Not
      rfl
    rw [search_of_digest rfl rfl read, unlisted, ← found]
    split <;> simp [*]

/-- A tag that is signed for a digest among tags that are signed for no bytes at all: one of them
has a text that is no base64, and one has the text of that digest with bits left over. -/
def untidyTargets : List (String × Target) :=
  [("broken", ⟨[(sha256Name, "?")], 0⟩),
    ("loose", ⟨[(sha256Name, "0dHR0dHR0dHR0dHR0dHR0dHR0dHR0dHR0dHR0dHR0dF=")], 0⟩),
    ("v1", Publisher.targetOf Publication.sample.released)]

theorem digest_search_agrees_in_untidyTargets :
    (untidyTargets.map Prod.fst).Nodup ∧
      Reference.isDigest Publication.sample.releasedDigest.toList = true ∧
      ∃ bytes, Hex.decode Publication.sample.releasedDigest.toList = .ok bytes ∧
        (∀ tag target, (tag, target) ∈ untidyTargets →
          (search untidyTargets
              { Publication.sampleImage with tag := some tag, digest := none } =
                .ok (some Publication.sample.releasedDigest) ↔
            target.bytes? = some bytes)) ∧
        (search untidyTargets { Publication.sampleImage with
            tag := none, digest := some Publication.sample.releasedDigest } =
              .ok (some Publication.sample.releasedDigest) ↔
          ∃ tag target, (tag, target) ∈ untidyTargets ∧ target.bytes? = some bytes) ∧
        (search untidyTargets { Publication.sampleImage with
            tag := none, digest := some Publication.sample.releasedDigest } = .ok none ↔
          ∀ tag target, (tag, target) ∈ untidyTargets → target.bytes? ≠ some bytes) := by
  have distinct : (untidyTargets.map Prod.fst).Nodup := by decide
  have valid : Reference.isDigest Publication.sample.releasedDigest.toList = true := by
    decide +kernel
  exact ⟨distinct, valid, digest_search_agrees distinct valid Publication.sampleImage⟩

end Addressing

end Chain

end SignedAdmission
