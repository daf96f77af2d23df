import SignedAdmission.Proofs.Key.Forms

/-! Equality of roots. What a root is printed as tells it from all others that can be loaded, so
that a comparison of kinds and texts is one of keys, and equal roots verify alike. -/
namespace SignedAdmission

theorem Base64.encode_injective : Function.Injective Base64.encode := by
  intro bytes other same
  have read := decode?_encode bytes
  rw [same, decode?_encode] at read
  exact (Option.some.inj read).symm

theorem P256.Point.der_injective : Function.Injective P256.Point.der := by
  intro point other same
  have read := point.ofDer?_der
  rw [same, other.ofDer?_der] at read
  exact (Option.some.inj read).symm

theorem Rsa.PublicKey.der_injective : Function.Injective Rsa.PublicKey.der := by
  intro key other same
  have read := key.ofDer?_der
  rw [same, other.ofDer?_der] at read
  exact (Option.some.inj read).symm

theorem P256.Point.der_ne_rsa (point : P256.Point) (key : Rsa.PublicKey) : point.der ≠ key.der := by
  intro same
  have read := point.ofDer?_der
  rw [same, ofDer?_rsa] at read
  contradiction

namespace TrustRoot

variable {root other : TrustRoot} {cs : List Char} {bytes : List UInt8}

section Keys

theorem der_of_text {der second : List UInt8}
    (same : String.ofList (Base64.encode der) = String.ofList (Base64.encode second)) :
    der = second :=
  Base64.encode_injective (String.ofList_injective same)

/-- The encodings of keys tell them apart, those of different algorithms too. -/
theorem eq_of_text_of_isKey (usable : root.isKey = true) (usable' : other.isKey = true)
    (same : root.text = other.text) : root = other := by
  cases root with
  | ecdsa point =>
    cases other with
    | ecdsa second => rw [P256.Point.der_injective (der_of_text same)]
    | rsa key => exact absurd (der_of_text same) (point.der_ne_rsa key)
    | kms | keyless => contradiction
  | rsa key =>
    cases other with
    | ecdsa point => exact absurd (der_of_text same).symm (point.der_ne_rsa key)
    | rsa second => rw [Rsa.PublicKey.der_injective (der_of_text same)]
    | kms | keyless => contradiction
  | kms | keyless => contradiction

theorem symbol_ne_mark {mark : Char} (marks : mark ∈ ['@', ':']) :
    (∀ n < 64, Base64.symbol n ≠ mark) ∧ '=' ≠ mark := by
  have unused : ∀ c ∈ ['@', ':'], (∀ n < 64, Base64.symbol n ≠ c) ∧ '=' ≠ c := by
    rw [List.forall_mem_cons, List.forall_mem_singleton]
    decide
  exact unused mark marks

/-- No text of a key has one of the marks that other roots have. -/
theorem not_mem_text_of_isKey (usable : root.isKey = true) {mark : Char}
    (marks : mark ∈ ['@', ':']) : mark ∉ root.text.toList := by
  obtain ⟨symbols, pad⟩ := symbol_ne_mark marks
  have free (bytes : List UInt8) : mark ∉ (String.ofList (Base64.encode bytes)).toList := by
    rw [String.toList_ofList]
    intro member
    exact Base64.forall_mem_encode (p := (· ≠ mark)) symbols pad bytes mark member rfl
  cases root with
  | ecdsa point =>
    rw [text]
    exact free _
  | rsa key =>
    rw [text]
    exact free _
  | kms | keyless => contradiction

end Keys

section Loading

/-- A root that some text is loaded as, by itself or as trust data lists it. -/
inductive Loaded : TrustRoot → Prop
  | parsed {source : String} {root : TrustRoot} (read : parse source = .ok root) : Loaded root
  | listed {source : String} {root : TrustRoot} (read : ofListed source = .ok root) : Loaded root

/-- What is no key has been parsed, from the text itself or from the document that it carries. -/
theorem Loaded.exists_parses (h : Loaded root) (unusable : root.isKey = false) :
    ∃ source, Parses source root := by
  cases h with
  | parsed read => exact ⟨_, parse_eq_ok.mp read⟩
  | listed read =>
    rcases ofListed_eq_ok read with ⟨document, -, parses⟩ | ⟨bytes, -, info⟩
    · exact ⟨document, parses⟩
    · rw [isKey_of_ofInfo? info] at unusable
      contradiction

theorem Loaded.parse_text (h : Loaded root) (unusable : root.isKey = false) :
    parse root.text = .ok root := by
  obtain ⟨source, parses⟩ := h.exists_parses unusable
  exact parse_eq_ok.mpr (parses.reloads unusable)

theorem at_mem_of_isIdentity (reads : isIdentity cs = true) : '@' ∈ cs := by
  by_contra absent
  rw [isIdentity, Text.cut_of_not_mem absent] at reads
  contradiction

theorem colon_mem_of_isKeyAddress (reads : isKeyAddress cs = true) : ':' ∈ cs := by
  by_contra absent
  rw [isKeyAddress, Text.cut_of_not_mem absent] at reads
  contradiction

theorem Loaded.exists_mark (h : Loaded root) (unusable : root.isKey = false) :
    ∃ mark ∈ ['@', ':'], mark ∈ root.text.toList := by
  obtain ⟨source, parses⟩ := h.exists_parses unusable
  cases parses with
  | identity reads =>
    refine ⟨'@', by simp, ?_⟩
    rw [text, String.toList_ofList]
    exact at_mem_of_isIdentity reads
  | address _ reads =>
    refine ⟨':', by simp, ?_⟩
    rw [text, String.toList_ofList]
    exact colon_mem_of_isKeyAddress reads
  | key _ _ read =>
    rw [isKey_of_ofPem? read] at unusable
    contradiction

/-- A text is printed for one root only, whatever its kind. -/
theorem Loaded.eq_of_text (h : Loaded root) (h' : Loaded other) (same : root.text = other.text) :
    root = other := by
  -- Base64 has no symbol for the marks of other roots, so a key is never printed like one of them.
  cases usable : root.isKey with
  | true =>
    cases usable' : other.isKey with
    | true => exact eq_of_text_of_isKey usable usable' same
    | false =>
      obtain ⟨mark, marks, member⟩ := h'.exists_mark usable'
      rw [← same] at member
      exact absurd member (not_mem_text_of_isKey usable marks)
  | false =>
    cases usable' : other.isKey with
    | true =>
      obtain ⟨mark, marks, member⟩ := h.exists_mark usable
      rw [same] at member
      exact absurd member (not_mem_text_of_isKey usable' marks)
    | false =>
      have parsed := h.parse_text usable
      rw [same, h'.parse_text usable'] at parsed
      exact (Except.ok.inj parsed).symm

end Loading

theorem beq_iff : (root == other) = true ↔ root.kind = other.kind ∧ root.text = other.text := by
  change (root.kind == other.kind && root.text == other.text) = true ↔ _
  rw [Bool.and_eq_true, beq_iff_eq, beq_iff_eq]

/-- Roots that have been loaded compare equal only if they are the same, for which their texts are
enough, and equal ones give the same verdict about every signature of every message. -/
theorem equal_verify_alike (h : Loaded root) (h' : Loaded other) :
    ((root == other) = true ↔ root = other) ∧ (root.text = other.text ↔ root = other) ∧
      ((root == other) = true → ∀ message signature,
        root.verify message signature = other.verify message signature) := by
  have texts : root.text = other.text ↔ root = other := by
    constructor
    · intro same
      exact h.eq_of_text h' same
    · rintro rfl
      rfl
  have equal : (root == other) = true ↔ root = other := by
    rw [beq_iff, ← texts]
    constructor
    · rintro ⟨-, same⟩
      exact same
    · intro same
      exact ⟨congrArg kind (texts.mp same), same⟩
  refine ⟨equal, texts, ?_⟩
  intro same message signature
  rw [equal.mp same]

section Sample

/-- The sample key with one coordinate written out. -/
def compressedText : String :=
  "MDkwEwYHKoZIzj0CAQYIKoZIzj0DAQcDIgACOXYta5TgdCwXTCnLU09W5T4M4r9fQQrqJuADP6U7g5o="

theorem ofListed_compressedText : ofListed compressedText = .ok (ecdsa sampleKey) := by
  let point : List UInt8 := 0x02 :: Bytes.bigEndian P256.width sampleKey.x
  let der := Der.publicKeyInfo P256.algorithm point
  have spelled : Text.withoutSpaces compressedText.toList = Base64.encode der := by decide +kernel
  have read : P256.Point.ofDer? der = some sampleKey := by decide +kernel
  have info : ofInfo? der = some (ecdsa sampleKey) := by
    rw [ofInfo?, read]
    rfl
  rw [ofListed_of_spelled spelled, ofPayload_sequence (head_of_ofInfo? info), info]

theorem equal_verify_alike_of_samples :
    ∃ root other third, parse samplePem = .ok root ∧ ofListed compressedText = .ok other ∧
      parse smallPem = .ok third ∧ (root == other) = true ∧ (root == third) = false ∧
      ∀ message signature, root.verify message signature = other.verify message signature := by
  have loaded : Loaded (ecdsa sampleKey) := .parsed parse_samplePem
  obtain ⟨equal, -, verdicts⟩ := equal_verify_alike loaded (.listed ofListed_compressedText)
  obtain ⟨different, -, -⟩ := equal_verify_alike loaded (.parsed parse_smallPem)
  refine ⟨_, _, _, parse_samplePem, ofListed_compressedText, parse_smallPem, equal.mpr rfl, ?_,
    verdicts (equal.mpr rfl)⟩
  rw [← Bool.not_eq_true, different]
  intro same
  contradiction

end Sample

end TrustRoot

end SignedAdmission
