import SignedAdmission.Proofs.Bytes.RoundTrip
import SignedAdmission.Proofs.TrustData.Walk

/-! The decision about an image, once the base documents are trusted: which documents decide, what
each of them lists the image for, and how they agree. -/
namespace SignedAdmission

open Checks

namespace Target

def bytes? (target : Target) : Option (List UInt8) :=
  target.sha256?.bind fun text => Base64.decode? text.toList

end Target

/-- The digests that a document lists an image for: those of its tag, where a digest that the image
also names must be the same, or else the digest that the image names, if it is that of any tag. -/
inductive Document.Lists (document : Document) (image : Reference) : String → Prop
  | byTag {tag target bytes} (tagged : image.tag = some tag)
    (listed : document.targets.lookup tag = some target) (signed : target.bytes? = some bytes)
    (same : ∀ requested, image.digest = some requested →
      requested = String.ofList (Hex.encode bytes)) :
    Lists document image (String.ofList (Hex.encode bytes))
  | byDigest {digest tag target bytes} (untagged : image.tag = none)
    (requested : image.digest = some digest) (listed : (tag, target) ∈ document.targets)
    (signed : target.bytes? = some bytes) (decoded : Hex.decode digest.toList = .ok bytes) :
    Lists document image digest

/-- A digest is listed as the text of bytes that some tag is signed for. -/
theorem Document.Lists.signed {document : Document} {image : Reference} {digest : String}
    (h : document.Lists image digest) :
    ∃ tag target bytes, (tag, target) ∈ document.targets ∧ target.bytes? = some bytes ∧
      Hex.decode digest.toList = .ok bytes := by
  cases h with
  | @byTag tag target bytes tagged listed signed same =>
    obtain ⟨before, after, split, -⟩ := List.lookup_eq_some_iff.mp listed
    refine ⟨tag, target, bytes, by simp [split], signed, ?_⟩
    rw [String.toList_ofList, Hex.decode_encode]
  | byDigest untagged requested listed signed decoded =>
    exact ⟨_, _, _, listed, signed, decoded⟩

namespace Chain

/-- A document is only ever found to sign a digest that it lists the image for. -/
theorem search_eq_some {document : Document} {image : Reference} {digest : String}
    (h : search document.targets image = .ok (some digest)) : document.Lists image digest := by
  rw [search] at h
  split at h
  case h_1 tag tagged =>
    split at h
    case h_1 => simp at h
    case h_2 text found =>
      obtain ⟨target, listed, hash⟩ := Option.bind_eq_some_iff.mp found
      split at h
      case h_1 => simp at h
      case h_2 bytes decoded =>
        have signed : target.bytes? = some bytes := by simp [Target.bytes?, hash, decoded]
        split at h
        case h_1 requested asked =>
          simp only at h
          split at h
          case isTrue same =>
            obtain rfl : String.ofList (Hex.encode bytes) = digest := by simpa using h
            exact .byTag tagged listed signed (by simpa [asked] using same)
          case isFalse => simp at h
        case h_2 unasked =>
          obtain rfl : String.ofList (Hex.encode bytes) = digest := by simpa using h
          exact .byTag tagged listed signed (by simp [unasked])
  case h_2 requested untagged asked =>
    split at h
    case h_1 => simp at h
    case h_2 bytes decoded =>
      simp only at h
      split at h
      case isFalse => simp at h
      case isTrue found =>
        obtain rfl : requested = digest := by simpa using h
        simp only [List.any_eq_true, beq_iff_eq, Prod.exists] at found
        obtain ⟨tag, target, listed, hash⟩ := found
        have signed : target.bytes? = some bytes := by
          simp [Target.bytes?, hash, Base64.decode?_encode]
        exact .byDigest untagged asked listed signed decoded
  case h_3 => simp at h

theorem eraseDups_eq_singleton {digests : List String} {digest : String} :
    digests.eraseDups = [digest] ↔ digest ∈ digests ∧ ∀ other ∈ digests, other = digest := by
  constructor
  · intro h
    simp [← List.mem_eraseDups (l := digests), h]
  · rintro ⟨member, same⟩
    cases digests with
    | nil => simp at member
    | cons first rest =>
      rw [List.forall_mem_cons] at same
      obtain ⟨rfl, same⟩ := same
      have repeated : (rest.filter fun other => !other == first) = [] := by
        rw [List.filter_eq_nil_iff]
        intro other member
        simp [same other member]
      rw [List.eraseDups_cons, repeated, List.eraseDups_nil]

/-- Agreement on a digest: some document has it, none has another one, and if delegations are
required none goes without. -/
theorem agree_eq_ok {required : List Role} {image : Reference} {found : List (Option String)}
    {digest : String} :
    agree required image found = .ok digest ↔
      (required ≠ [] → none ∉ found) ∧ some digest ∈ found ∧
        ∀ other, some other ∈ found → other = digest := by
  rw [agree]
  split
  case isTrue incomplete =>
    simp only [Bool.and_eq_true, Bool.not_eq_true', List.isEmpty_eq_false_iff, List.any_eq_true,
      Option.isNone_iff_eq_none, exists_eq_right] at incomplete
    simp [incomplete.1, incomplete.2]
  case isFalse complete =>
    have complete : required ≠ [] → none ∉ found := by simpa using complete
    have single : (found.filterMap id).eraseDups = [digest] ↔
        some digest ∈ found ∧ ∀ other, some other ∈ found → other = digest := by
      simp [eraseDups_eq_singleton]
    rw [← single]
    split <;> simp_all

/-- The documents that decide: those of the delegations that are consulted, or the targets document
where none is, or where the default one is the only one and cannot be fetched. -/
inductive Deciding (fetch : Fetch) (targets : Document) :
    Option (List Role) → List Document → Prop
  | undelegated : Deciding fetch targets none [targets]
  | unpublished {e} (unfetched : fetch .releases = .error e) :
    Deciding fetch targets (some [.releases]) [targets]
  | delegated {roles documents}
    (fetched : List.Forall₂ (fun role document => fetch role = .ok document) roles documents) :
    Deciding fetch targets (some roles) documents

section Delegations

variable {suite : Suite} {now : Instant} {strict : Bool} {fetch : Fetch} {store : KeyStore}
  {roles : List Role} {found : List (Role × Document)}

/-- The documents that can be fetched for some roles. -/
def available (fetch : Fetch) (roles : List Role) : List (Role × Document) :=
  roles.filterMap fun role => (fetch role).toOption.map (role, ·)

theorem available_cons_ok {role : Role} {document : Document} (h : fetch role = .ok document) :
    available fetch (role :: roles) = (role, document) :: available fetch roles := by
  simp [available, h]

theorem available_cons_error {role : Role} {e : TrustError} (h : fetch role = .error e) :
    available fetch (role :: roles) = available fetch roles := by
  simp [available, h]

theorem delegations_eq_ok :
    delegations suite now strict fetch store roles = .ok found ↔
      (∀ role ∈ roles, (∀ document, fetch role = .ok document →
          document.validate suite now store = .ok ()) ∧
        (strict = true → ∃ document, fetch role = .ok document)) ∧
      found = available fetch roles := by
  induction roles generalizing found with
  | nil => simp [delegations, available, eq_comm]
  | cons role roles ih =>
    rw [delegations, fetchDelegation]
    cases fetched : fetch role with
    | ok document =>
      simp only [bind_eq_ok, Except.ok.injEq, exists_eq_left', exists_unit_eq_ok, pure_eq_ok, ih,
        List.forall_mem_cons, fetched, available_cons_ok fetched]
      constructor
      · rintro ⟨valid, rest, ⟨others, rfl⟩, rfl⟩
        exact ⟨⟨⟨fun _ same => same ▸ valid, fun _ => ⟨document, rfl⟩⟩, others⟩, rfl⟩
      · rintro ⟨⟨⟨valid, -⟩, others⟩, rfl⟩
        exact ⟨valid document rfl, _, ⟨others, rfl⟩, rfl⟩
    | error e =>
      cases strict with
      | true => simp [fetched]
      | false => simp [fetched, available_cons_error fetched, ih]

theorem lookup_available (fetch : Fetch) (roles : List Role) (role : Role) :
    (available fetch roles).lookup role = if role ∈ roles then (fetch role).toOption else none := by
  induction roles with
  | nil => rfl
  | cons other roles ih =>
    cases fetched : fetch other with
    | error e =>
      rw [available_cons_error fetched, ih]
      by_cases same : role = other
      · subst same
        simp [fetched]
      · simp [same]
    | ok document =>
      rw [available_cons_ok fetched, lookup_cons_eq_ite, ih]
      by_cases same : role = other
      · subst same
        simp [fetched]
      · simp [same]

theorem targets_of_forall₂ {documents : List Document}
    (h : List.Forall₂ (fun role document => fetch role = .ok document) roles documents) :
    (roles.map fun role => ((fetch role).toOption.map Document.targets).getD []) =
      documents.map Document.targets := by
  induction h with
  | nil => rfl
  | cons fetched _ ih => simp [fetched, ih]

section Selection

variable {targets : Document} {documents : List Document} {image : Reference}
  {selected : List (List (String × Target))}

theorem deciding_undelegated : Deciding fetch targets none documents ↔ documents = [targets] := by
  constructor
  · intro deciding
    cases deciding
    rfl
  · rintro rfl
    exact .undelegated

/-- Where the default delegation cannot be fetched, only the targets document decides. -/
theorem deciding_of_unfetched {e} (unfetched : fetch .releases = .error e) :
    Deciding fetch targets (some [.releases]) documents ↔ documents = [targets] := by
  constructor
  · intro deciding
    cases deciding with
    | unpublished => rfl
    | delegated fetched =>
      obtain ⟨document, -, fetched⟩ := exists_of_mem_left fetched _ List.mem_cons_self
      simp [unfetched] at fetched
  · rintro rfl
    exact .unpublished unfetched

/-- Where every delegation can be fetched, just their documents decide. -/
theorem deciding_of_fetched (complete : ∀ role ∈ roles, ∃ document, fetch role = .ok document) :
    Deciding fetch targets (some roles) documents ↔
      List.Forall₂ (fun role document => fetch role = .ok document) roles documents := by
  constructor
  · intro deciding
    cases deciding with
    | unpublished unfetched =>
      obtain ⟨document, fetched⟩ := complete _ List.mem_cons_self
      simp [unfetched] at fetched
    | delegated fetched => exact fetched
  · exact .delegated

/-- Tags are only selected if there are any. -/
theorem unlessBare_eq_ok (chosen : List (List (String × Target))) :
    (do if chosen.all List.isEmpty then throw (.missing .digests)
        return chosen : Except TrustError _) = .ok selected ↔
      (∃ tags ∈ chosen, tags ≠ []) ∧ selected = chosen := by
  split
  case isTrue bare =>
    have bare : ¬ ∃ tags ∈ chosen, tags ≠ [] := by simpa using bare
    simp only [bind_eq_ok, throw_ne_ok, bare, false_and, exists_false]
  case isFalse tagged =>
    have tagged : ∃ tags ∈ chosen, tags ≠ [] := by simpa using tagged
    rw [pure_eq_ok, eq_comm]
    exact (and_iff_right tagged).symm

/-- The tags of a selection are those of the documents that decide, one of which has some. -/
theorem selectTargets_eq_ok {roles : Option (List Role)} :
    selectTargets targets roles (available fetch (roles.getD [])) image = .ok selected ↔
      ∃ documents, Deciding fetch targets roles documents ∧
        (∃ document ∈ documents, document.targets ≠ []) ∧
        selected = documents.map Document.targets := by
  cases roles with
  | none =>
    simp only [selectTargets, bind_eq_ok, pure_eq_ok, exists_eq_left', unlessBare_eq_ok,
      deciding_undelegated, exists_eq_left]
    simp
  | some roles =>
    have looked (role : Role) (member : role ∈ roles) :
        (available fetch roles).lookup role = (fetch role).toOption := by
      rw [lookup_available, if_pos member]
    have absent : roles.filter (fun role => ((available fetch roles).lookup role).isNone) =
        roles.filter fun role => (fetch role).toOption.isNone :=
      List.filter_congr fun role member => by rw [looked role member]
    have chosen : roles.map (fun role =>
          (((available fetch roles).lookup role).map Document.targets).getD []) =
        roles.map fun role => ((fetch role).toOption.map Document.targets).getD [] :=
      List.map_congr_left fun role member => by rw [looked role member]
    simp only [selectTargets, Option.getD_some, absent, chosen]
    split
    case isTrue unpublished =>
      obtain ⟨rfl, absent⟩ := unpublished
      have unfetched : (fetch .releases).toOption = none := by simpa using absent
      obtain ⟨e, unfetched⟩ := toOption_eq_none.mp unfetched
      simp only [bind_eq_ok, pure_eq_ok, exists_eq_left', unlessBare_eq_ok,
        deciding_of_unfetched unfetched, exists_eq_left]
      simp
    case isFalse published =>
      split
      case isTrue complete =>
        have complete : ∀ role ∈ roles, ∃ document, fetch role = .ok document := by
          simpa [List.filter_eq_nil_iff, ← Option.ne_none_iff_isSome,
            Option.ne_none_iff_exists', toOption_eq_some] using complete
        simp only [bind_eq_ok, pure_eq_ok, exists_eq_left', unlessBare_eq_ok,
          deciding_of_fetched complete]
        constructor
        · rintro ⟨tagged, rfl⟩
          obtain ⟨documents, fetched⟩ := exists_forall₂ complete
          rw [targets_of_forall₂ fetched] at tagged ⊢
          exact ⟨documents, fetched, by simpa using tagged, rfl⟩
        · rintro ⟨documents, fetched, tagged, rfl⟩
          rw [targets_of_forall₂ fetched]
          exact ⟨by simpa using tagged, rfl⟩
      case isFalse incomplete =>
        simp only [bind_eq_ok, throw_ne_ok, false_and, exists_false, false_iff]
        rintro ⟨documents, deciding, tagged, rfl⟩
        cases deciding with
        | unpublished unfetched => exact published ⟨rfl, by simp [unfetched]⟩
        | delegated fetched =>
          apply incomplete
          rw [List.isEmpty_iff, List.filter_eq_nil_iff]
          intro role member
          obtain ⟨document, -, fetched⟩ := exists_of_mem_left fetched role member
          simp [fetched]

end Selection

end Delegations

section Validation

variable {suite : Suite} {now : Instant} {strict : Bool} {fetch : Fetch} {root : TrustRoot}
  {required : List Role} {image : Reference} {digest : String}

/-- A validation finds a digest if the walk succeeds, every delegation that can be fetched is valid,
and the documents that decide agree on that digest. -/
theorem validate_eq_ok :
    (validate suite now strict fetch root required image).result = .ok digest ↔
      ∃ start, base suite now fetch root required = .ok start ∧
        (∀ role ∈ start.roles.getD [],
          (∀ document, fetch role = .ok document →
            document.validate suite now start.store = .ok ()) ∧
          (strict = true → ∃ document, fetch role = .ok document)) ∧
        ∃ documents, Deciding fetch start.targets start.roles documents ∧
          (∃ document ∈ documents, document.targets ≠ []) ∧
          ∃ found, List.Forall₂ (fun document result => search document.targets image = .ok result)
            documents found ∧ agree required image found = .ok digest := by
  rw [validate]
  cases walked : base suite now fetch root required with
  | error e => simp
  | ok start =>
    simp only [bind_eq_ok, delegations_eq_ok, Except.ok.injEq, exists_eq_left', mapM_eq_ok]
    constructor
    · rintro ⟨-, ⟨valid, rfl⟩, selected, chosen, found, searched, agreed⟩
      obtain ⟨documents, deciding, tagged, rfl⟩ := selectTargets_eq_ok.mp chosen
      exact ⟨valid, documents, deciding, tagged, found, List.forall₂_map_left_iff.mp searched,
        agreed⟩
    · rintro ⟨valid, documents, deciding, tagged, found, searched, agreed⟩
      exact ⟨_, ⟨valid, rfl⟩, _, selectTargets_eq_ok.mpr ⟨documents, deciding, tagged, rfl⟩, found,
        List.forall₂_map_left_iff.mpr searched, agreed⟩

/-- If delegations are required, every document that decides has the digest that is found. -/
theorem search_of_agree {documents : List Document} {found : List (Option String)}
    (searched : List.Forall₂ (fun document result => search document.targets image = .ok result)
      documents found) (agreed : agree required image found = .ok digest)
    (demanded : required ≠ []) :
    ∀ document ∈ documents, search document.targets image = .ok (some digest) := by
  obtain ⟨complete, -, same⟩ := agree_eq_ok.mp agreed
  intro document member
  obtain ⟨result, found, has⟩ := exists_of_mem_left searched document member
  cases result with
  | none => exact absurd found (complete demanded)
  | some other => rwa [same other found] at has

/-- Some document that decides lists the image for the digest that is found, and if delegations are
required every one does. -/
theorem lists_of_agree {documents : List Document} {found : List (Option String)}
    (searched : List.Forall₂ (fun document result => search document.targets image = .ok result)
      documents found) (agreed : agree required image found = .ok digest) :
    (∃ document ∈ documents, document.Lists image digest) ∧
      (required ≠ [] → ∀ document ∈ documents, document.Lists image digest) := by
  obtain ⟨-, some_digest, -⟩ := agree_eq_ok.mp agreed
  constructor
  · obtain ⟨document, member, signs⟩ := exists_of_mem_right searched _ some_digest
    exact ⟨document, member, search_eq_some signs⟩
  · intro demanded document member
    exact search_eq_some (search_of_agree searched agreed demanded document member)

end Validation

end Chain

end SignedAdmission
