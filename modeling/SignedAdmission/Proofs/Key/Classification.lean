import SignedAdmission.Key.TrustRoot
import SignedAdmission.Proofs.Bytes.Strict
import SignedAdmission.Proofs.Bytes.Utf8
import SignedAdmission.Proofs.Text.Split
import SignedAdmission.Proofs.Text.Trim

/-! What the text of a listed key is taken for. It is read as a textual document as soon as it
begins like one, or is base64 of what does, and a text that begins so may still be taken for a mail
address. -/
namespace SignedAdmission.TrustRoot

variable {cs : List Char} {text document : String} {bytes : List UInt8} {root : TrustRoot}

section Beginnings

theorem solid_pemStart : ∀ c ∈ pemStart, Text.isSpace c = false := by
  have solid : pemStart.all (fun c => !Text.isSpace c) = true := by decide
  simpa [List.all_eq_true] using solid

theorem pemStart_prefix_trim (starts : pemStart <+: Text.trimStart cs) :
    pemStart <+: Text.trim cs :=
  Text.prefix_trim solid_pemStart starts

theorem pemStart_prefix_trimStart (starts : pemStart <+: cs) : pemStart <+: Text.trimStart cs := by
  have kept : Text.trimStart cs = cs := by
    apply Text.trimStart_of_solid
    obtain ⟨rest, rfl⟩ := starts
    intro c first
    have dash : '-' = c := Option.some.inj first
    rw [← dash]
    decide
  rwa [kept]

/-- No key service has a name that begins with a dash. -/
theorem isKeyAddress_of_pemStart (starts : pemStart <+: cs) : isKeyAddress cs = false := by
  rw [isKeyAddress]
  obtain ⟨-, whole⟩ | ⟨service, path, rfl, -, parts⟩ := Text.cut_cases ':' cs
  · rw [whole]
  · rw [Text.prefix_append_cons_iff (by decide)] at starts
    have undashed : ∀ name ∈ keyServices, name.toList.head? ≠ some '-' := by decide
    have unknown : keyServices.contains (String.ofList service) = false := by
      obtain ⟨rest, rfl⟩ := starts
      rw [← Bool.not_eq_true, List.contains_iff_mem]
      intro listed
      apply undashed _ listed
      rw [String.toList_ofList]
      rfl
    simp only [parts, unknown, Bool.false_and]

/-- No mail address has a space. -/
theorem isIdentity_of_boundary (starts : Pem.beginBoundary <+: cs) : isIdentity cs = false := by
  rw [isIdentity]
  obtain ⟨-, whole⟩ | ⟨user, host, rfl, -, parts⟩ := Text.cut_cases '@' cs
  · rw [whole]
  · rw [Text.prefix_append_cons_iff (by decide)] at starts
    have space : ' ' ∈ user := starts.subset (by decide)
    simp only [parts, Bool.and_eq_false_iff, allOf, List.all_eq_false]
    exact .inl (.inr ⟨' ', space, by decide⟩)

end Beginnings

section Parsing

theorem isKey_of_ofPem? (read : ofPem? cs = some root) : root.isKey = true := by
  simp only [ofPem?, Option.or_eq_some_iff, Option.map_eq_some_iff] at read
  rcases read with (⟨key, -, rfl⟩ | ⟨-, key, -, rfl⟩) | ⟨-, key, -, rfl⟩ <;> rfl

theorem isKey_of_ofInfo? (read : ofInfo? bytes = some root) : root.isKey = true := by
  simp only [ofInfo?, Option.or_eq_some_iff, Option.map_eq_some_iff] at read
  rcases read with ⟨key, -, rfl⟩ | ⟨-, key, -, rfl⟩ <;> rfl

/-- What a text is taken for, in the order of the attempts. -/
inductive Parses (text : String) : TrustRoot → Prop
  | identity (reads : isIdentity (Text.trim text.toList) = true) :
    Parses text (keyless (String.ofList (Text.trim text.toList)))
  | address (other : isIdentity (Text.trim text.toList) = false)
      (reads : isKeyAddress (Text.trim text.toList) = true) :
    Parses text (kms (String.ofList (Text.trim text.toList)))
  | key {root : TrustRoot} (other : isIdentity (Text.trim text.toList) = false)
      (another : isKeyAddress (Text.trim text.toList) = false)
      (read : ofPem? (Text.trim text.toList) = some root) : Parses text root

theorem parse_eq_ok : parse text = .ok root ↔ Parses text root := by
  rw [parse]
  constructor
  · intro parsed
    split at parsed
    case isTrue reads =>
      obtain rfl := Except.ok.inj parsed
      exact .identity reads
    case isFalse other =>
      split at parsed
      case isTrue reads =>
        obtain rfl := Except.ok.inj parsed
        exact .address (Bool.eq_false_iff.mpr other) reads
      case isFalse another =>
        split at parsed
        case h_1 found read =>
          obtain rfl := Except.ok.inj parsed
          exact .key (Bool.eq_false_iff.mpr other) (Bool.eq_false_iff.mpr another) read
        case h_2 => contradiction
  · intro parses
    cases parses with
    | identity reads => simp only [reads, if_true]
    | address other reads => simp [other, reads]
    | key other another read => simp [other, another, read]

end Parsing

section Listing

/-- The textual document that a listed text is or is base64 of. -/
inductive Carries (text : String) : String → Prop
  | plain (starts : pemStart <+: Text.trimStart text.toList) : Carries text text
  | encoded {document : String}
      (spelled : Text.withoutSpaces text.toList = Base64.encode document.toUTF8.toList)
      (starts : pemStart <+: document.toList) : Carries text document

theorem Carries.starts (carries : Carries text document) :
    pemStart <+: Text.trimStart document.toList := by
  cases carries with
  | plain starts => exact starts
  | encoded _ starts => exact pemStart_prefix_trimStart starts

/-- A text in base64 does not begin like a document, wherever white space is put into it. -/
theorem not_pemStart_of_spelled (spelled : Text.withoutSpaces text.toList = Base64.encode bytes) :
    ¬ pemStart <+: Text.trimStart text.toList := by
  intro starts
  have dash : '-' ∈ text.toList :=
    (List.dropWhile_suffix _).subset (starts.subset (by decide))
  have kept : '-' ∈ Text.withoutSpaces text.toList :=
    List.mem_filter.mpr ⟨dash, by decide⟩
  rw [spelled] at kept
  exact Base64.forall_mem_encode (p := (· ≠ '-')) (by decide) (by decide) bytes _ kept rfl

/-- What the bytes are read as that a listed text is base64 of. -/
def ofPayload (bytes : List UInt8) : Except KeyFault TrustRoot :=
  if (String.ofList pemStart).toUTF8.toList.isPrefixOf bytes then
    match String.fromUTF8? bytes.toByteArray with
    | some document => parse document
    | none => .error .pem
  else
    match ofInfo? bytes with
    | some root => .ok root
    | none => .error .algorithm

theorem ofListed_of_spelled (spelled : Text.withoutSpaces text.toList = Base64.encode bytes) :
    ofListed text = ofPayload bytes := by
  have other := not_pemStart_of_spelled spelled
  rw [← List.isPrefixOf_iff_prefix] at other
  rw [ofListed, if_neg other, spelled]
  simp only [Base64.decode?_encode]
  rfl

theorem Carries.ofListed (carries : Carries text document) :
    ofListed text = parse document := by
  cases carries with
  | plain starts => rw [TrustRoot.ofListed, if_pos (List.isPrefixOf_iff_prefix.mpr starts)]
  | encoded spelled starts =>
    have bytes_start : (String.ofList pemStart).toUTF8.toList <+: document.toUTF8.toList := by
      rw [Utf8.toList_toUTF8_prefix_iff, String.toList_ofList]
      exact starts
    rw [ofListed_of_spelled spelled, ofPayload,
      if_pos (List.isPrefixOf_iff_prefix.mpr bytes_start), Utf8.fromUTF8?_toUTF8]

theorem ofListed_eq_ok (loaded : ofListed text = .ok root) :
    (∃ document, Carries text document ∧ Parses document root) ∨
      ∃ bytes, Text.withoutSpaces text.toList = Base64.encode bytes ∧
        ofInfo? bytes = some root := by
  by_cases plain : pemStart <+: Text.trimStart text.toList
  · have carries := Carries.plain plain
    rw [carries.ofListed] at loaded
    exact .inl ⟨text, carries, parse_eq_ok.mp loaded⟩
  · cases decoded : Base64.decode? (Text.withoutSpaces text.toList) with
    | none =>
      rw [← List.isPrefixOf_iff_prefix] at plain
      rw [ofListed, if_neg plain, decoded] at loaded
      contradiction
    | some bytes =>
      have spelled := Base64.decode?_eq_some_iff.mp decoded
      rw [ofListed_of_spelled spelled, ofPayload] at loaded
      split at loaded
      case isTrue starts =>
        split at loaded
        case h_1 document read =>
          obtain rfl := Utf8.fromUTF8?_eq_some_iff.mp read
          rw [List.isPrefixOf_iff_prefix, Utf8.toList_toUTF8_prefix_iff,
            String.toList_ofList] at starts
          exact .inl ⟨document, .encoded spelled starts, parse_eq_ok.mp loaded⟩
        case h_2 => contradiction
      case isFalse =>
        split at loaded
        case h_1 found read =>
          obtain rfl := Except.ok.inj loaded
          exact .inr ⟨bytes, spelled, read⟩
        case h_2 => contradiction

/-- A listed text that is taken for a mail address. -/
def Disguises (text : String) (root : TrustRoot) : Prop :=
  ∃ document, Carries text document ∧ isIdentity (Text.trim document.toList) = true ∧
    root = keyless (String.ofList (Text.trim document.toList))

/-- A listed text yields something else than a key exactly if it is taken for a mail address. -/
theorem unusable_iff : ofListed text = .ok root ∧ root.isKey = false ↔ Disguises text root := by
  constructor
  · rintro ⟨loaded, unusable⟩
    rcases ofListed_eq_ok loaded with ⟨document, carries, parses⟩ | ⟨bytes, -, read⟩
    · cases parses with
      | identity reads => exact ⟨document, carries, reads, rfl⟩
      | address other reads =>
        rw [isKeyAddress_of_pemStart (pemStart_prefix_trim carries.starts)] at reads
        contradiction
      | key _ _ read =>
        rw [isKey_of_ofPem? read] at unusable
        contradiction
    · rw [isKey_of_ofInfo? read] at unusable
      contradiction
  · rintro ⟨document, carries, reads, rfl⟩
    rw [carries.ofListed]
    exact ⟨parse_eq_ok.mpr (.identity reads), rfl⟩

end Listing

end SignedAdmission.TrustRoot
