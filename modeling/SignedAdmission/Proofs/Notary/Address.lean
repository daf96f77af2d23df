import SignedAdmission.Notary.Fetch
import SignedAdmission.Proofs.Reference.Acceptance
import SignedAdmission.Proofs.Role.Naming

/-! The addresses of trust data. The segments of an address before `_trust` are those of the image,
and none of them reads `_trust` itself: each address belongs to one repository and one role. -/
namespace SignedAdmission

namespace Reference

/-- The segment after those of the image. -/
def trustSegment : List Char := "_trust".toList

theorem Spelling.Named.trustSegment_not_mem {s : Spelling} (h : s.Named) :
    trustSegment ∉ s.path ++ [s.name] := by
  rw [List.mem_append, List.mem_singleton, not_or]
  constructor
  · intro member
    obtain component | domain := h.component_or_domain trustSegment member
    · exact absurd component (by decide)
    · exact absurd domain (by decide)
  · intro named
    exact absurd (named ▸ h.component_name) (by decide)

/-- The segments of the repository tell registry, repository and name apart. -/
theorem eq_of_segments {a b : Reference}
    (same : a.spelling.path ++ [a.spelling.name] = b.spelling.path ++ [b.spelling.name]) :
    a.registry = b.registry ∧ a.repository = b.repository ∧ a.name = b.name := by
  obtain ⟨path, name⟩ := List.append_inj' same rfl
  obtain ⟨registry, repository⟩ := List.cons.inj path
  have name := List.singleton_inj.mp name
  refine ⟨String.toList_injective registry, ?_, String.toList_injective name⟩
  apply String.toList_injective
  rw [← a.join_path, ← b.join_path, repository]

end Reference

namespace Notary

open Text

section Segments

variable (notary : Notary) {image : Reference} {role : Role}

/-- The end of an address. -/
def roleText (role : Role) : List Char :=
  "tuf/".toList ++ role.text.toList ++ ".json".toList

theorem roleText_injective : Function.Injective roleText := by
  intro a b same
  have texts := List.append_cancel_left (List.append_cancel_right same)
  exact Role.text_injective (String.toList_injective texts)

theorem documentUrl_toList (image : Reference) (role : Role) :
    (notary.documentUrl image role).toList =
      (scheme ++ "://" ++ notary.settings.host ++ "/v2/").toList ++
        (image.spelling.fullName ++ '/' :: (Reference.trustSegment ++ '/' :: roleText role)) := by
  have mark : "/_trust/tuf/".toList = '/' :: (Reference.trustSegment ++ '/' :: "tuf/".toList) := rfl
  rw [← image.repositoryPath_toList, documentUrl, Reference.repositoryPath, roleText]
  split
  case isTrue =>
    simp only [String.toList_append, mark, String.toList_empty, List.append_assoc,
      List.cons_append, List.nil_append]
  case isFalse =>
    simp only [String.toList_append, mark, List.append_assoc, List.cons_append]

/-- What follows the version of the protocol is split into the segments of the repository, the
segment that they are set apart by, and those of the role. -/
theorem split_documentPath (named : image.spelling.Named) :
    split '/' (image.spelling.fullName ++ '/' :: (Reference.trustSegment ++ '/' :: roleText role)) =
      (image.spelling.path ++ [image.spelling.name]) ++
        Reference.trustSegment :: split '/' (roleText role) := by
  have flat : '/' ∉ Reference.trustSegment := by decide
  rw [split_append_cons, named.split_fullName, split_append flat]

end Segments

/-- An address belongs to one repository and one role: whatever spellings two images were read from,
their addresses for two roles are the same exactly if they have the same registry, repository and
name, and the roles are the same. -/
theorem documentUrl_eq_iff (notary : Notary) {a b : Reference} {text text' : String}
    (parsed : Reference.parse text = .ok a) (parsed' : Reference.parse text' = .ok b)
    (role role' : Role) :
    notary.documentUrl a role = notary.documentUrl b role' ↔
      (a.registry = b.registry ∧ a.repository = b.repository ∧ a.name = b.name) ∧ role = role' := by
  have named : a.spelling.Named := (Reference.wellFormed_of_parse parsed).named
  have named' : b.spelling.Named := (Reference.wellFormed_of_parse parsed').named
  constructor
  · intro same
    have texts := congrArg String.toList same
    rw [documentUrl_toList, documentUrl_toList] at texts
    have segments := congrArg (split '/') (List.append_cancel_left texts)
    rw [split_documentPath named, split_documentPath named'] at segments
    -- No segment of either image is the mark, so that the first mark is the same place in both.
    obtain ⟨repository, rest⟩ := append_cons_inj_of_first named.trustSegment_not_mem
      named'.trustSegment_not_mem segments
    refine ⟨Reference.eq_of_segments repository, roleText_injective ?_⟩
    rw [← join_split '/' (roleText role), rest, join_split]
  · rintro ⟨⟨registry, repository, name⟩, rfl⟩
    rw [documentUrl, documentUrl, registry, repository, name]

section Sample

def sampleNotary : Notary :=
  ⟨"default", ⟨"notary.docker.io", [], none, none, false⟩⟩

/-- An image of the default repository with some tag. -/
def sampleImage (tag : String) : Reference :=
  ⟨Reference.defaultRegistry, Reference.defaultRepository, "nginx", some tag, none⟩

theorem documentUrl_eq_iff_of_samples :
    Role.parse "targets/releases" = .ok .releases ∧
      Role.parseDelegation "releases" = .ok .releases ∧
      sampleNotary.documentUrl (sampleImage "latest") .releases =
        sampleNotary.documentUrl (sampleImage "1.25") .releases ∧
      sampleNotary.documentUrl (sampleImage "latest") .targets ≠
        sampleNotary.documentUrl (sampleImage "1.25") .releases := by
  have short : Reference.parse "nginx" = .ok (sampleImage "latest") :=
    Reference.parse_eq_ok.mpr (by decide +kernel)
  have long : Reference.parse "docker.io/library/nginx:1.25" = .ok (sampleImage "1.25") :=
    Reference.parse_eq_ok.mpr (by decide +kernel)
  have read : Role.parse "targets/releases" = .ok .releases := by
    have found : Role.ofText? "targets/releases" = some .releases := by decide +kernel
    rw [Role.parse, found]
  have delegated : Role.parseDelegation "releases" = .ok .releases := by
    rw [Role.parseDelegation, if_neg (by decide)]
    exact read
  have exact_iff := documentUrl_eq_iff sampleNotary short long
  refine ⟨read, delegated, ?_, ?_⟩
  · exact (exact_iff .releases .releases).mpr ⟨⟨rfl, rfl, rfl⟩, rfl⟩
  · intro same
    obtain ⟨-, role⟩ := (exact_iff .targets .releases).mp same
    cases role

end Sample

end Notary

end SignedAdmission
