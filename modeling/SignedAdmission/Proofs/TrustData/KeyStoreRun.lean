import SignedAdmission.Proofs.Bytes.Utf8
import SignedAdmission.Proofs.Json.Record
import SignedAdmission.Proofs.TrustData.Publication

/-! Updates of a key store, one and many. An update adds what a document offers, up to the first key
that cannot be loaded; over any run of updates the first entry for an id or a role stays. -/
namespace SignedAdmission

open Checks

namespace Json

/-- The entries of a dictionary are in the order of their keys. -/
theorem Decoder.dictionary_sorted {α : Type} {decode : Decoder α} {value : Json}
    {entries : List (String × α)} (h : Decoder.dictionary decode value = .ok entries) :
    entries.Pairwise fun a b => a.1 ≤ b.1 := by
  cases value with
  | object fields =>
    simp only [Decoder.dictionary, bind_eq_ok, pure_eq_ok] at h
    obtain ⟨found, -, rfl⟩ := h
    refine (List.pairwise_mergeSort ?_ ?_ found).imp fun le => of_decide_eq_true le
    · intro a b c
      simpa using String.le_trans
    · intro a b
      simpa using String.le_total a.1 b.1
  | null | bool _ | number _ | string _ | array _ => simp [Decoder.dictionary] at h

end Json

theorem Delegations.keys_sorted {value : Json} {delegations : Delegations}
    (h : Delegations.decode value = .ok delegations) :
    delegations.keys.Pairwise fun a b => a.1 ≤ b.1 := by
  simp only [Delegations.decode, bind_eq_ok, pure_eq_ok] at h
  obtain ⟨slots, -, keys, read, roles, -, rfl⟩ := h
  obtain ⟨value, -, decoded⟩ | absent | absent := Json.RecordField.get_cases read
  · exact Json.Decoder.dictionary_sorted decoded
  · simp at absent
  · obtain rfl : [] = keys := by simpa using absent
    exact .nil

namespace Body

theorem sorted_root {signed : Json} {keys : List (String × ListedKey)}
    (h : decodeRoot signed = .ok (.root keys)) : keys.Pairwise fun a b => a.1 ≤ b.1 := by
  simp only [decodeRoot, bind_eq_ok, pure_eq_ok, Body.root.injEq] at h
  obtain ⟨slots, -, found, read, rfl⟩ := h
  obtain ⟨value, -, decoded⟩ | absent | absent := Json.RecordField.get_cases read
  · exact Json.Decoder.dictionary_sorted decoded
  · simp at absent
  · simp at absent

theorem sorted_delegations {signed : Json} {targets : List (String × Target)}
    {delegations : Delegations} (h : decodeTargets signed = .ok (.targets targets delegations)) :
    delegations.keys.Pairwise fun a b => a.1 ≤ b.1 := by
  simp only [decodeTargets, bind_eq_ok, pure_eq_ok, Body.targets.injEq] at h
  obtain ⟨slots, -, targets, -, found, read, -, rfl⟩ := h
  obtain ⟨value, -, decoded⟩ | absent | absent := Json.RecordField.get_cases read
  · exact Delegations.keys_sorted decoded
  · simp at absent
  · obtain rfl : ⟨[], []⟩ = found := by simpa using absent
    exact .nil

end Body

namespace Document

/-- The keys that a document vouches for are in the order of their ids. -/
theorem keys_sorted {role : Role} {value : Json} {document : Document}
    (h : ofJson role value = .ok document) : document.keys.Pairwise fun a b => a.1 ≤ b.1 := by
  have formed := ofJson_wellFormed h
  have decoded := formed.body_eq
  have kind := formed.fits
  rw [keys]
  cases body : document.body with
  | root keys =>
    rw [body] at decoded kind
    cases kind
    exact Body.sorted_root decoded
  | targets targets delegations =>
    rw [body] at decoded kind
    have sorted : delegations.keys.Pairwise fun a b => a.1 ≤ b.1 := by
      cases kind <;> exact Body.sorted_delegations decoded
    simp only
    split
    · exact sorted
    · exact .nil
  | listing entries => exact .nil

/-- A key that a document vouches for, without a signature in its name. -/
def Vouches (document : Document) (id : String) (key : TrustRoot) : Prop :=
  id ∉ document.keyIds ∧
    ∃ listed, document.keys.lookup id = some listed ∧ TrustRoot.ofListed listed.text = .ok key

end Document

namespace KeyStore

section Steps

variable {signers : List String} {store after : KeyStore} {before rest : List (String × ListedKey)}

/-- Keys are added one after the other. -/
theorem addKeys_append (h : store.addKeys signers before = (after, .ok ())) :
    store.addKeys signers (before ++ rest) = after.addKeys signers rest := by
  induction before generalizing store with
  | nil =>
    cases h
    rfl
  | cons entry before ih =>
    obtain ⟨id, key⟩ := entry
    rw [addKeys] at h
    rw [List.cons_append, addKeys]
    split at h
    case isTrue skipped =>
      rw [if_pos skipped]
      exact ih h
    case isFalse fresh =>
      rw [if_neg fresh]
      split at h
      case h_1 root loaded => exact ih h
      case h_2 => simp at h

/-- Entries that a store has, or that are the signers', are passed over. -/
theorem addKeys_known (h : ∀ entry ∈ before, entry.1 ∈ signers ∨ (store.ring entry.1).isSome) :
    store.addKeys signers before = (store, .ok ()) := by
  induction before with
  | nil => rfl
  | cons entry before ih =>
    obtain ⟨known, h⟩ := List.forall_mem_cons.mp h
    rw [addKeys, if_pos (by simpa [ring] using known), ih h]

theorem ring_addKeys_of_some (h : store.addKeys signers before = (after, .ok ())) {id : String}
    {key : TrustRoot} (known : store.ring id = some key) : after.ring id = some key := by
  rw [ring_addKeys h, known, Option.some_or]

/-- Entries that were added or passed over are known afterwards. -/
theorem known_of_addKeys (h : store.addKeys signers before = (after, .ok ())) :
    ∀ entry ∈ before, entry.1 ∈ signers ∨ (after.ring entry.1).isSome := by
  induction before generalizing store with
  | nil => simp
  | cons entry before ih =>
    obtain ⟨id, key⟩ := entry
    have whole := h
    rw [addKeys] at h
    split at h
    case isTrue skipped =>
      refine List.forall_mem_cons.mpr ⟨?_, ih h⟩
      simp only [Bool.or_eq_true, List.contains_iff_mem, Option.isSome_iff_exists] at skipped
      obtain signer | ⟨root, known⟩ := skipped
      · exact .inl signer
      · exact .inr (Option.isSome_of_eq_some (ring_addKeys_of_some h known))
    case isFalse fresh =>
      split at h
      case h_1 root loaded =>
        refine List.forall_mem_cons.mpr ⟨.inr ?_, ih h⟩
        simp only [Bool.or_eq_true, List.contains_iff_mem, not_or] at fresh
        rw [ring_addKeys whole, if_neg fresh.1, List.lookup_cons_self, Option.bind_some,
          ListedKey.root?, loaded]
        simp [Except.toOption]
      case h_2 => simp at h

/-- Keys stop being added at one that cannot be loaded, once the ones before it are added. -/
theorem exists_stopped {listed : List (String × ListedKey)} {e : TrustError}
    (h : store.addKeys signers listed = (after, .error e)) :
    ∃ before id key rest fault, listed = before ++ (id, key) :: rest ∧
      store.addKeys signers before = (after, .ok ()) ∧ id ∉ signers ∧ after.ring id = none ∧
      TrustRoot.ofListed key.text = .error fault ∧ e = .format (.storedKey id fault) := by
  induction listed generalizing store with
  | nil => simp [addKeys] at h
  | cons entry listed ih =>
    obtain ⟨id, key⟩ := entry
    rw [addKeys] at h
    split at h
    case isTrue skipped =>
      obtain ⟨before, other, found, rest, fault, rfl, added, others⟩ := ih h
      refine ⟨(id, key) :: before, other, found, rest, fault, rfl, ?_, others⟩
      rw [addKeys, if_pos skipped, added]
    case isFalse fresh =>
      split at h
      case h_1 root loaded =>
        obtain ⟨before, other, found, rest, fault, rfl, added, others⟩ := ih h
        refine ⟨(id, key) :: before, other, found, rest, fault, rfl, ?_, others⟩
        simp only [addKeys, if_neg fresh, loaded, added]
      case h_2 fault loaded =>
        simp only [Prod.mk.injEq, Except.error.injEq] at h
        obtain ⟨rfl, rfl⟩ := h
        simp only [Bool.or_eq_true, List.contains_iff_mem, not_or, Bool.not_eq_true,
          Option.isSome_eq_false_iff, Option.isNone_iff_eq_none] at fresh
        exact ⟨[], id, key, listed, fault, rfl, rfl, fresh.1, fresh.2, loaded, rfl⟩

end Steps

section Update

variable {store after : KeyStore} {document : Document} {result : Except TrustError Unit}

/-- What an update does: it merges all that the document offers, or stops at a key. -/
inductive Updates (store : KeyStore) (document : Document) :
    KeyStore → Except TrustError Unit → Prop
  | merged {withKeys} (added : store.addKeys document.keyIds document.keys = (withKeys, .ok ())) :
    Updates store document (withKeys.addHashes document.hashes) (.ok ())
  | stopped {after before id key rest fault} (listed : document.keys = before ++ (id, key) :: rest)
    (added : store.addKeys document.keyIds before = (after, .ok ()))
    (unsigned : id ∉ document.keyIds) (unknown : after.ring id = none)
    (unloadable : TrustRoot.ofListed key.text = .error fault) :
    Updates store document after (.error (.format (.storedKey id fault)))

theorem updates_of_update (h : store.update document = (after, result)) :
    store.Updates document after result := by
  rw [update] at h
  split at h
  case h_1 withKeys added =>
    obtain ⟨rfl, rfl⟩ := Prod.mk.inj h
    exact .merged added
  case h_2 stopped e failed =>
    obtain ⟨rfl, rfl⟩ := Prod.mk.inj h
    obtain ⟨before, id, key, rest, fault, listed, added, unsigned, unknown, unloadable, rfl⟩ :=
      exists_stopped failed
    exact .stopped listed added unsigned unknown unloadable

/-- A key that a document lists and that an update looks at. -/
structure Offers (store : KeyStore) (document : Document) (id : String) (listed : ListedKey) :
    Prop where
  listed : document.keys.lookup id = some listed
  unsigned : id ∉ document.keyIds
  unknown : store.ring id = none

/-- Everything is added that a document offers. -/
structure Merges (store : KeyStore) (document : Document) (after : KeyStore) : Prop where
  loadable : ∀ id listed, store.Offers document id listed →
    ∃ key, TrustRoot.ofListed listed.text = .ok key
  keys : after.ring = store.ring.extend document
  hashes : ∀ role, after.hashes.lookup role =
    (store.hashes.lookup role).or ((document.hashes.lookup role).map MetaEntry.stored)

/-- The first key that cannot be loaded, in the order of the bytes of ids, keeps everything from
being added but the keys before it. -/
structure Stops (store : KeyStore) (document : Document) (id : String) (fault : KeyFault)
    (after : KeyStore) : Prop where
  unloadable : ∃ listed, store.Offers document id listed ∧
    TrustRoot.ofListed listed.text = .error fault
  earlier : ∀ other, other.toUTF8.toList < id.toUTF8.toList →
    ∀ listed, store.Offers document other listed →
      ∃ key, TrustRoot.ofListed listed.text = .ok key
  keys : ∀ other, after.ring other =
    if other.toUTF8.toList < id.toUTF8.toList then store.ring.extend document other
    else store.ring other
  hashes : after.hashes = store.hashes

/-- What is listed and is known, without being known before, was loaded. -/
theorem loadable_of_addKeys {listed : List (String × ListedKey)} {id : String} {key : ListedKey}
    (added : store.addKeys document.keyIds listed = (after, .ok ()))
    (unsigned : id ∉ document.keyIds) (unknown : store.ring id = none)
    (found : listed.lookup id = some key) : ∃ root, TrustRoot.ofListed key.text = .ok root := by
  obtain ⟨entry, member, same⟩ := List.lookup_isSome_iff.mp (Option.isSome_of_eq_some found)
  obtain rfl : id = entry.1 := by simpa using same
  obtain known := (known_of_addKeys added entry member).resolve_left unsigned
  rw [ring_addKeys added, unknown, if_neg unsigned, found, Option.none_or, Option.bind_some,
    Option.isSome_iff_exists] at known
  obtain ⟨root, loaded⟩ := known
  exact ⟨root, toOption_eq_some.mp loaded⟩

theorem hashes_of_addKeys {signers : List String} {listed : List (String × ListedKey)}
    (added : store.addKeys signers listed = (after, result)) : after.hashes = store.hashes := by
  simpa only [added] using hashes_addKeys signers store listed

theorem merges_of_addKeys {withKeys : KeyStore}
    (added : store.addKeys document.keyIds document.keys = (withKeys, .ok ())) :
    store.Merges document (withKeys.addHashes document.hashes) where
  loadable _ _ offered := loadable_of_addKeys added offered.unsigned offered.unknown offered.listed
  keys := by
    funext id
    rw [ring, keys_addHashes]
    exact ring_addKeys added id
  hashes role := by rw [lookup_addHashes, hashes_of_addKeys added]

/-- The entries before the one that stops an update are those of smaller ids. -/
theorem lookup_before {before rest : List (String × ListedKey)} {id : String} {key : ListedKey}
    (sorted : (before ++ (id, key) :: rest).Pairwise fun a b => a.1 ≤ b.1)
    (absent : before.lookup id = none) (other : String) :
    before.lookup other =
      if other < id then (before ++ (id, key) :: rest).lookup other else none := by
  obtain ⟨-, later, ordered⟩ := List.pairwise_append.mp sorted
  split
  case isTrue smaller =>
    have behind : ((id, key) :: rest).lookup other = none := by
      rw [List.lookup_eq_none_iff]
      intro entry member
      have bound : id ≤ entry.1 := by
        obtain rfl | member := List.mem_cons.mp member
        · exact String.le_refl _
        · exact (List.pairwise_cons.mp later).1 entry member
      have apart : other ≠ entry.1 := by
        rintro rfl
        exact bound smaller
      simpa using apart
    rw [List.lookup_append, behind, Option.or_none]
  case isFalse greater =>
    rw [List.lookup_eq_none_iff] at absent ⊢
    intro entry member
    have bound : entry.1 ≤ id := ordered entry member _ List.mem_cons_self
    have apart : other ≠ entry.1 := by
      rintro rfl
      have same : id = entry.1 := String.le_antisymm greater bound
      simpa [same] using absent entry member
    simpa using apart

theorem stops_of_addKeys {before rest : List (String × ListedKey)} {id : String} {key : ListedKey}
    {fault : KeyFault} (sorted : document.keys.Pairwise fun a b => a.1 ≤ b.1)
    (listed : document.keys = before ++ (id, key) :: rest)
    (added : store.addKeys document.keyIds before = (after, .ok ()))
    (unsigned : id ∉ document.keyIds) (unknown : after.ring id = none)
    (unloadable : TrustRoot.ofListed key.text = .error fault) :
    store.Stops document id fault after := by
  have absent : before.lookup id = none := by
    rw [List.lookup_eq_none_iff]
    intro entry member
    have known := known_of_addKeys added entry member
    have apart : id ≠ entry.1 := by
      rintro rfl
      simp [unsigned, unknown] at known
    simpa using apart
  have fresh : store.ring id = none := by
    cases known : store.ring id with
    | none => rfl
    | some root => simp [ring_addKeys_of_some added known] at unknown
  have smaller := lookup_before (listed ▸ sorted) absent
  rw [← listed] at smaller
  refine ⟨⟨key, ⟨?_, unsigned, fresh⟩, unloadable⟩, fun other less found offered => ?_,
    fun other => ?_, ?_⟩
  · rw [listed, List.lookup_append, absent, Option.none_or, List.lookup_cons_self]
  · refine loadable_of_addKeys added offered.unsigned offered.unknown ?_
    rw [smaller, if_pos (Utf8.toList_toUTF8_lt_iff.mp less), offered.listed]
  · rw [ring_addKeys added, smaller, Keyring.extend]
    simp only [Utf8.toList_toUTF8_lt_iff]
    by_cases less : other < id <;> simp [less]
  · exact hashes_of_addKeys added

/-- Listings about roles that a store has hashes for change nothing. -/
theorem addHashes_known {listing : List (String × MetaEntry)}
    (known : ∀ entry ∈ listing, (store.hashes.lookup entry.1).isSome) :
    store.addHashes listing = store := by
  induction listing with
  | nil => rfl
  | cons entry listing ih =>
    obtain ⟨first, known⟩ := List.forall_mem_cons.mp known
    rw [addHashes, if_pos first, ih known]

theorem Updates.repeated (h : store.Updates document after result) :
    after.update document = (after, result) := by
  cases h with
  | @merged withKeys added =>
    have keysKnown : ∀ entry ∈ document.keys, entry.1 ∈ document.keyIds ∨
        ((withKeys.addHashes document.hashes).ring entry.1).isSome := by
      intro entry member
      rw [ring, keys_addHashes]
      exact known_of_addKeys added entry member
    have hashesKnown : ∀ entry ∈ document.hashes,
        ((withKeys.addHashes document.hashes).hashes.lookup entry.1).isSome := by
      intro entry member
      have listed : (document.hashes.lookup entry.1).isSome :=
        List.lookup_isSome_iff.mpr ⟨entry, member, by simp⟩
      rw [lookup_addHashes]
      simp [listed]
    rw [update, addKeys_known keysKnown]
    simp only [addHashes_known hashesKnown]
  | @stopped _ before id key rest fault listed added unsigned unknown unloadable =>
    have stopped : ¬ (document.keyIds.contains id || (after.keys.lookup id).isSome) = true := by
      rw [ring] at unknown
      simp [unsigned, unknown]
    rw [update, listed, addKeys_append (addKeys_known (known_of_addKeys added)), addKeys,
      if_neg stopped]
    simp only [unloadable]

theorem merges_of_update (h : store.update document = (after, .ok ())) :
    store.Merges document after := by
  cases updates_of_update h with
  | merged added => exact merges_of_addKeys added

theorem stops_of_update {e : TrustError} (sorted : document.keys.Pairwise fun a b => a.1 ≤ b.1)
    (h : store.update document = (after, .error e)) :
    ∃ id fault, e = .format (.storedKey id fault) ∧ store.Stops document id fault after := by
  cases updates_of_update h with
  | stopped listed added unsigned unknown unloadable =>
    exact ⟨_, _, rfl, stops_of_addKeys sorted listed added unsigned unknown unloadable⟩

theorem Updates.ring_of_some (h : store.Updates document after result) {id : String}
    {key : TrustRoot} (known : store.ring id = some key) : after.ring id = some key := by
  cases h with
  | merged added =>
    rw [(merges_of_addKeys added).keys]
    exact Keyring.extend_of_some known document
  | stopped _ added => exact ring_addKeys_of_some added known

/-- A key that is new is one that the document vouches for. -/
theorem Updates.vouched (h : store.Updates document after result) {id : String}
    {key : TrustRoot} (found : after.ring id = some key) :
    store.ring id = some key ∨ document.Vouches id key := by
  -- Also an update that stops adds keys of the document, a first part of them.
  obtain ⟨before, rest, listed, added⟩ : ∃ before rest, document.keys = before ++ rest ∧
      after.ring id = (store.ring id).or
        (if id ∈ document.keyIds then none else (before.lookup id).bind ListedKey.root?) := by
    cases h with
    | merged added =>
      exact ⟨document.keys, [], by simp, congrFun (merges_of_addKeys added).keys id⟩
    | stopped listed added => exact ⟨_, _, listed, ring_addKeys added id⟩
  rw [found, eq_comm, Option.or_eq_some_iff] at added
  obtain known | ⟨-, new⟩ := added
  · exact .inl known
  · split at new
    case isTrue => simp at new
    case isFalse unsigned =>
      obtain ⟨key, first, loaded⟩ := Option.bind_eq_some_iff.mp new
      refine .inr ⟨unsigned, key, ?_, toOption_eq_some.mp loaded⟩
      rw [listed, List.lookup_append, first, Option.some_or]

end Update

section Runs

/-- The store after updates with documents one by one, whether they succeed or not. -/
def run (store : KeyStore) (documents : List Document) : KeyStore :=
  documents.foldl (fun store document => (store.update document).1) store

/-- The documents whose updates succeed. -/
def mergedOf (store : KeyStore) : List Document → List Document
  | [] => []
  | document :: rest =>
    match store.update document with
    | (after, .ok ()) => document :: after.mergedOf rest
    | (after, .error _) => after.mergedOf rest

/-- Stores that chains of documents begin with. -/
inductive Initial : KeyStore → Prop
  | empty : Initial .empty
  | pinned (root : TrustRoot) : Initial (.pinned root)

variable {store : KeyStore} {documents : List Document}

theorem run_append (store : KeyStore) (documents later : List Document) :
    store.run (documents ++ later) = (store.run documents).run later :=
  List.foldl_append

theorem ring_run_of_some {id : String} {key : TrustRoot} (known : store.ring id = some key)
    (documents : List Document) : (store.run documents).ring id = some key := by
  induction documents generalizing store with
  | nil => exact known
  | cons document documents ih => exact ih ((updates_of_update rfl).ring_of_some known)

/-- Every key of a run is there from the start or vouched for by one of the documents. -/
theorem vouched_of_run {id : String} {key : TrustRoot}
    (found : (store.run documents).ring id = some key) :
    store.ring id = some key ∨ ∃ document ∈ documents, document.Vouches id key := by
  induction documents generalizing store with
  | nil => exact .inl found
  | cons document documents ih =>
    obtain known | ⟨later, member, vouched⟩ := ih found
    · obtain known | vouched := (updates_of_update rfl).vouched known
      · exact .inl known
      · exact .inr ⟨document, List.mem_cons_self, vouched⟩
    · exact .inr ⟨later, List.mem_cons_of_mem _ member, vouched⟩

/-- The hash of a role is from the first merged document that lists the role. -/
theorem lookup_hashes_run (store : KeyStore) (documents : List Document) (role : String) :
    (store.run documents).hashes.lookup role =
      (store.hashes.lookup role).or ((store.mergedOf documents).findSome? fun document =>
        (document.hashes.lookup role).map MetaEntry.stored) := by
  induction documents generalizing store with
  | nil => simp [run, mergedOf]
  | cons document documents ih =>
    rw [run, List.foldl_cons, ← run, ih, mergedOf]
    split
    case h_1 after updated =>
      rw [updated, (merges_of_update updated).hashes, List.findSome?_cons, Option.or_assoc]
      cases document.hashes.lookup role <;> rfl
    case h_2 after e updated =>
      have kept : after.hashes = store.hashes := by
        cases updates_of_update updated with
        | stopped _ added => exact hashes_of_addKeys added
      rw [updated, kept]

theorem lookup_hashes_run_of_some {role : String} {entry : String × Nat}
    (known : store.hashes.lookup role = some entry) (documents : List Document) :
    (store.run documents).hashes.lookup role = some entry := by
  rw [lookup_hashes_run, known, Option.some_or]

theorem Initial.hashes (h : Initial store) : store.hashes = [] := by
  cases h <;> rfl

theorem Initial.pinned_of_ring {id : String} {root : TrustRoot} (initial : Initial store)
    (known : store.ring id = some root) : store = .pinned root ∧ id = pinnedId := by
  cases initial with
  | empty => simp [ring, KeyStore.empty] at known
  | pinned other =>
    rw [ring_pinned, Keyring.pinned, Option.ite_none_right_eq_some, Option.some.injEq] at known
    obtain ⟨same_id, same_root⟩ := known
    exact ⟨congrArg KeyStore.pinned same_root, same_id⟩

/-- Along any run of updates a store only grows: what is known stays, also the pinned key, every
other key is vouched for by a document, and every hash is from the first merged document that lists
its role. One update merges all that its document offers or stops at the first key that cannot be
loaded, and does the same again if it is repeated. -/
theorem run_keeps_first (start : Initial store) (documents : List Document) :
    (∀ before later, documents = before ++ later →
      (∀ id key, (store.run before).ring id = some key →
        (store.run documents).ring id = some key) ∧
      ∀ role entry, (store.run before).hashes.lookup role = some entry →
        (store.run documents).hashes.lookup role = some entry) ∧
    (∀ root, store = .pinned root → (store.run documents).ring pinnedId = some root) ∧
    (∀ id key, (store.run documents).ring id = some key →
      store = .pinned key ∧ id = pinnedId ∨
        ∃ document ∈ documents, document.Vouches id key) ∧
    (∀ role, (store.run documents).hashes.lookup role =
      (store.mergedOf documents).findSome? fun document =>
        (document.hashes.lookup role).map MetaEntry.stored) ∧
    ∀ role value document, Document.ofJson role value = .ok document →
      ∀ after result, (store.run documents).update document = (after, result) →
        (result = .ok () ∧ (store.run documents).Merges document after ∨
          ∃ id fault, result = .error (.format (.storedKey id fault)) ∧
            (store.run documents).Stops document id fault after) ∧
        after.update document = (after, result) := by
  refine ⟨?_, ?_, ?_, fun role => ?_, ?_⟩
  · rintro before later rfl
    rw [run_append]
    exact ⟨fun id key known => ring_run_of_some known later,
      fun role entry known => lookup_hashes_run_of_some known later⟩
  · rintro root rfl
    exact ring_run_of_some (by simp [ring_pinned, Keyring.pinned]) documents
  · intro id key found
    obtain known | vouched := vouched_of_run found
    · exact .inl (start.pinned_of_ring known)
    · exact .inr vouched
  · rw [lookup_hashes_run, start.hashes, List.lookup_nil, Option.none_or]
  · intro role value document read after result updated
    refine ⟨?_, (updates_of_update updated).repeated⟩
    cases result with
    | ok done => exact .inl ⟨rfl, merges_of_update updated⟩
    | error e =>
      obtain ⟨id, fault, rfl, stops⟩ := stops_of_update (Document.keys_sorted read) updated
      exact .inr ⟨id, fault, rfl, stops⟩

section Sample

open Chain

theorem read_sampleRoot : Document.ofJson .root Publication.sample.root.envelope =
    .ok Publication.sample.root := by
  have fetched : Publication.sampleServed.fetch .root = .ok Publication.sample.root :=
    Publication.fetched.root
  exact fetched

theorem run_keeps_first_of_sample :
    Initial (.pinned Publication.sample.publisher.key) ∧
      Document.ofJson .root Publication.sample.root.envelope = .ok Publication.sample.root ∧
      ((KeyStore.pinned Publication.sample.publisher.key).run [Publication.sample.snapshot]).ring
        pinnedId = some Publication.sample.publisher.key ∧
      ∀ after result, ((KeyStore.pinned Publication.sample.publisher.key).run
          [Publication.sample.snapshot]).update Publication.sample.root = (after, result) →
        after.update Publication.sample.root = (after, result) := by
  obtain ⟨-, pinned, -, -, step⟩ :=
    run_keeps_first (.pinned Publication.sample.publisher.key) [Publication.sample.snapshot]
  exact ⟨.pinned _, read_sampleRoot, pinned _ rfl,
    fun after result updated => (step _ _ _ read_sampleRoot after result updated).2⟩

end Sample

end Runs

end KeyStore

end SignedAdmission
