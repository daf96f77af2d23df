import SignedAdmission.Proofs.Key.Classification
import SignedAdmission.Proofs.Key.Encoding
import SignedAdmission.Proofs.Key.Pem

/-! The forms that a key is written in. Those of a public key info all give the same root, and the
text of a root gives it again, save for the plain encoding of an RSA key, which only a textual
document is expected to hold. -/
namespace SignedAdmission.TrustRoot

variable {pem source : String} {cs : List Char} {bytes : List UInt8} {root : TrustRoot}

section Documents

theorem pemStart_prefix_of_boundary (begins : Pem.beginBoundary <+: cs) : pemStart <+: cs :=
  List.IsPrefix.trans (by decide) begins

theorem ofPem?_info (labelled : Pem.Labelled "PUBLIC KEY" cs) :
    ofPem? cs = (Pem.decode? "PUBLIC KEY" cs).bind ofInfo? := by
  have plain : Pem.decode? "RSA PUBLIC KEY" cs = none :=
    labelled.decode?_other ⟨by decide, by decide⟩
  rw [ofPem?, plain]
  cases Pem.decode? "PUBLIC KEY" cs with
  | none => rfl
  | some bytes => simp [ofInfo?]

theorem ofPem?_plain (labelled : Pem.Labelled "RSA PUBLIC KEY" cs) :
    ofPem? cs = ((Pem.decode? "RSA PUBLIC KEY" cs).bind Rsa.PublicKey.ofDer?).map rsa := by
  have info : Pem.decode? "PUBLIC KEY" cs = none :=
    labelled.decode?_other ⟨by decide, by decide⟩
  rw [ofPem?, info]
  rfl

/-- A text that begins with a boundary is read as a document and as nothing else. -/
theorem parse_document (begins : Pem.beginBoundary <+: pem.toList)
    (trimmed : Text.trim pem.toList = pem.toList) :
    parse pem = .ok root ↔ ofPem? pem.toList = some root := by
  have not_identity := isIdentity_of_boundary begins
  have not_address := isKeyAddress_of_pemStart (pemStart_prefix_of_boundary begins)
  rw [parse_eq_ok]
  constructor
  · intro parses
    cases parses with
    | identity reads => simp [trimmed, not_identity] at reads
    | address _ reads => simp [trimmed, not_address] at reads
    | key _ _ read => rwa [trimmed] at read
  · intro read
    rw [← trimmed] at not_identity not_address read
    exact .key not_identity not_address read

end Documents

section Payloads

theorem ofInfo?_ecdsa (key : P256.Point) : ofInfo? key.der = some (ecdsa key) := by
  rw [ofInfo?, key.ofDer?_der]
  rfl

theorem ofInfo?_rsa (key : Rsa.PublicKey) : ofInfo? key.der = none := by
  rw [ofInfo?, P256.Point.ofDer?_rsa, key.ofInfo?_der]
  rfl

theorem head_of_ofInfo? (read : ofInfo? bytes = some root) :
    bytes.head? = some Der.sequenceTag := by
  simp only [ofInfo?, Option.or_eq_some_iff, Option.map_eq_some_iff] at read
  rcases read with ⟨key, read, -⟩ | ⟨-, key, read, -⟩
  · obtain ⟨point, info, -⟩ := Option.bind_eq_some_iff.mp read
    exact Der.head_of_publicKeyInfo? info
  · obtain ⟨numbers, info, -⟩ := Option.bind_eq_some_iff.mp read
    exact Der.head_of_publicKeyInfo? info

/-- A sequence is not taken for a textual document. -/
theorem ofPayload_sequence (head : bytes.head? = some Der.sequenceTag) :
    ofPayload bytes = match ofInfo? bytes with
      | some root => .ok root
      | none => .error .algorithm := by
  have dash : (String.ofList pemStart).toUTF8.toList.head? = some 0x2d := by
    rw [Utf8.toList_toUTF8, String.toList_ofList]
    decide
  have other : ¬ (String.ofList pemStart).toUTF8.toList.isPrefixOf bytes = true := by
    rw [List.isPrefixOf_iff_prefix]
    rintro ⟨rest, rfl⟩
    rw [List.head?_append, dash, Option.some_or] at head
    exact absurd (Option.some.inj head) (by decide)
  rw [ofPayload]
  exact if_neg other

theorem withoutSpaces_encode (bytes : List UInt8) :
    Text.withoutSpaces (String.ofList (Base64.encode bytes)).toList = Base64.encode bytes := by
  have solid : ∀ c ∈ Base64.encode bytes, Text.isSpace c = false :=
    Base64.forall_mem_encode (by decide) (by decide) bytes
  rw [String.toList_ofList, Text.withoutSpaces, List.filter_eq_self]
  intro c member
  rw [solid c member, Bool.not_false]

end Payloads

/-- The document of a public key info, base64 of the document, and base64 of what it holds, with
white space anywhere in either, give the same root. -/
theorem forms_agree (labelled : Pem.Labelled "PUBLIC KEY" pem.toList)
    (trimmed : Text.trim pem.toList = pem.toList) (parsed : parse pem = .ok root) :
    ofListed pem = .ok root ∧
    (∀ text, Text.withoutSpaces text.toList = Base64.encode pem.toUTF8.toList →
      ofListed text = .ok root) ∧
    ∃ der, Pem.decode? "PUBLIC KEY" pem.toList = some der ∧
      ∀ text, Text.withoutSpaces text.toList = Base64.encode der → ofListed text = .ok root := by
  have starts := pemStart_prefix_of_boundary labelled.begins
  have read := (parse_document labelled.begins trimmed).mp parsed
  rw [ofPem?_info labelled] at read
  obtain ⟨der, held, read⟩ := Option.bind_eq_some_iff.mp read
  refine ⟨?_, ?_, der, held, ?_⟩
  · rw [(Carries.plain (pemStart_prefix_trimStart starts)).ofListed, parsed]
  · intro text spelled
    rw [(Carries.encoded spelled starts).ofListed, parsed]
  · intro text spelled
    rw [ofListed_of_spelled spelled, ofPayload_sequence (head_of_ofInfo? read), read]

section Sample

def samplePem : String := "-----BEGIN PUBLIC KEY-----
MFkwEwYHKoZIzj0CAQYIKoZIzj0DAQcDQgAEOXYta5TgdCwXTCnLU09W5T4M4r9f
QQrqJuADP6U7g5r9ICgPSmZuRHP/1AYUfOQW3baveKsT969EfELKj1lfCA==
-----END PUBLIC KEY-----"

def sampleKey : P256.Point where
  x := 0x39762d6b94e0742c174c29cb534f56e53e0ce2bf5f410aea26e0033fa53b839a
  y := 0xfd20280f4a666e4473ffd406147ce416ddb6af78ab13f7af447c42ca8f595f08
  onCurve := by decide

/-- What the sample holds, with white space before it and a line end inside. -/
def brokenText : String := " MFkwEwYHKoZIzj0CAQYIKoZIzj0DAQcDQgAEOXYta5TgdCwXTCnLU09W5T4M4r9f
  QQrqJuADP6U7g5r9ICgPSmZuRHP/1AYUfOQW3baveKsT969EfELKj1lfCA=="

theorem read_samplePem :
    Pem.Labelled "PUBLIC KEY" samplePem.toList ∧
      Text.trim samplePem.toList = samplePem.toList ∧
      Pem.decode? "PUBLIC KEY" samplePem.toList = some sampleKey.der := by
  unfold Pem.Labelled
  decide +kernel

theorem parse_samplePem : parse samplePem = .ok (ecdsa sampleKey) := by
  obtain ⟨labelled, trimmed, held⟩ := read_samplePem
  rw [parse_document labelled.begins trimmed, ofPem?_info labelled, held]
  exact ofInfo?_ecdsa sampleKey

theorem brokenText_spelled :
    Text.withoutSpaces brokenText.toList = Base64.encode sampleKey.der := by
  decide +kernel

theorem forms_agree_of_sample :
    Pem.Labelled "PUBLIC KEY" samplePem.toList ∧
      Text.trim samplePem.toList = samplePem.toList ∧
      parse samplePem = .ok (ecdsa sampleKey) ∧
      ofListed samplePem = .ok (ecdsa sampleKey) ∧
      ofListed (String.ofList (Base64.encode samplePem.toUTF8.toList)) = .ok (ecdsa sampleKey) ∧
      ofListed brokenText = .ok (ecdsa sampleKey) := by
  obtain ⟨labelled, trimmed, held⟩ := read_samplePem
  obtain ⟨itself, document, der, found, payload⟩ := forms_agree labelled trimmed parse_samplePem
  obtain rfl : sampleKey.der = der := Option.some.inj (held.symm.trans found)
  exact ⟨labelled, trimmed, parse_samplePem, itself,
    document _ (withoutSpaces_encode _), payload _ brokenText_spelled⟩

end Sample

section Reloading

theorem ofListed_ecdsa (key : P256.Point) : ofListed (ecdsa key).text = .ok (ecdsa key) := by
  have info := ofInfo?_ecdsa key
  rw [text, ofListed_of_spelled (withoutSpaces_encode key.der),
    ofPayload_sequence (head_of_ofInfo? info), info]

/-- The plain encoding of an RSA key is no public key info. -/
theorem ofListed_rsa (key : Rsa.PublicKey) : ofListed (rsa key).text = .error .algorithm := by
  have head : key.der.head? = some Der.sequenceTag := Der.head_pair key.modulus key.exponent
  rw [text, ofListed_of_spelled (withoutSpaces_encode key.der), ofPayload_sequence head,
    ofInfo?_rsa]

/-- A textual document with a label and the text of a root. -/
def titled (label : String) (root : TrustRoot) : String :=
  String.ofList (Pem.document label.toList root.text.toList)

theorem labelled_titled (label : String) (root : TrustRoot) :
    Pem.Labelled label (titled label root).toList := by
  rw [titled, String.toList_ofList]
  exact Pem.labelled_document label _

theorem trim_titled (label : String) (root : TrustRoot) :
    Text.trim (titled label root).toList = (titled label root).toList := by
  rw [titled, String.toList_ofList, Pem.trim_document]

theorem decode?_titled_rsa (label : String) (key : Rsa.PublicKey) :
    Pem.decode? label (titled label (rsa key)).toList = some key.der := by
  rw [titled, String.toList_ofList, text, String.toList_ofList]
  exact Pem.decode?_document label (List.cons_ne_nil _ _)

theorem parse_titled_rsa (key : Rsa.PublicKey) :
    parse (titled "RSA PUBLIC KEY" (rsa key)) = .ok (rsa key) := by
  have labelled := labelled_titled "RSA PUBLIC KEY" (rsa key)
  rw [parse_document labelled.begins (trim_titled _ _), ofPem?_plain labelled, decode?_titled_rsa,
    Option.bind_some, key.ofDer?_der, Option.map_some]

/-- The text of a root that is no key has no white space around it, so that it is taken for the same
once more. -/
theorem Parses.reloads (parses : Parses source root) (other : root.isKey = false) :
    Parses root.text root := by
  have trimmed : Text.trim (String.ofList (Text.trim source.toList)).toList =
      Text.trim source.toList := by
    rw [String.toList_ofList, Text.trim_trim]
  cases parses with
  | identity reads =>
    have again := Parses.identity (trimmed.symm ▸ reads)
    rwa [trimmed] at again
  | address not_identity reads =>
    have again := Parses.address (trimmed.symm ▸ not_identity) (trimmed.symm ▸ reads)
    rwa [trimmed] at again
  | key _ _ read =>
    rw [isKey_of_ofPem? read] at other
    contradiction

/-- A root that was loaded is loaded again from its text: an ECDSA key as trust data lists keys, and
a root that is no key by parsing. The text of an RSA key is refused as a listed key, and is parsed
to the same key in a textual document. -/
theorem reloads_from_text (loaded : parse source = .ok root ∨ ofListed source = .ok root) :
    (∀ key, root = ecdsa key → ofListed root.text = .ok root) ∧
    (∀ key, root = rsa key → ofListed root.text = .error .algorithm ∧
      parse (titled "RSA PUBLIC KEY" root) = .ok root) ∧
    (root.isKey = false → parse root.text = .ok root) := by
  refine ⟨?_, ?_, ?_⟩
  · rintro key rfl
    exact ofListed_ecdsa key
  · rintro key rfl
    exact ⟨ofListed_rsa key, parse_titled_rsa key⟩
  · intro other
    obtain ⟨document, parses⟩ : ∃ document, Parses document root := by
      rcases loaded with parsed | listed
      · exact ⟨source, parse_eq_ok.mp parsed⟩
      · rcases ofListed_eq_ok listed with ⟨document, -, parses⟩ | ⟨bytes, -, read⟩
        · exact ⟨document, parses⟩
        · rw [isKey_of_ofInfo? read] at other
          contradiction
    exact parse_eq_ok.mpr (parses.reloads other)

end Reloading

section Sample

/-- A number of four bits is enough for a modulus. -/
def smallKey : Rsa.PublicKey := ⟨15, 3, by decide +kernel⟩

def smallPem : String := "-----BEGIN RSA PUBLIC KEY-----
MAYCAQ8CAQM=
-----END RSA PUBLIC KEY-----"

theorem read_smallPem :
    Pem.Labelled "RSA PUBLIC KEY" smallPem.toList ∧
      Text.trim smallPem.toList = smallPem.toList ∧
      Pem.decode? "RSA PUBLIC KEY" smallPem.toList = some smallKey.der := by
  unfold Pem.Labelled
  decide

theorem parse_smallPem : parse smallPem = .ok (rsa smallKey) := by
  obtain ⟨labelled, trimmed, held⟩ := read_smallPem
  rw [parse_document labelled.begins trimmed, ofPem?_plain labelled, held, Option.bind_some,
    smallKey.ofDer?_der, Option.map_some]

theorem text_smallKey : (rsa smallKey).text = "MAYCAQ8CAQM=" := by
  decide

def sampleAddress : TrustRoot := kms "k8s://example_ns/example_key"

theorem parse_sampleAddress : parse " k8s://example_ns/example_key " = .ok sampleAddress := by
  rfl

theorem reloads_from_text_of_samples :
    (parse samplePem = .ok (ecdsa sampleKey) ∧
      ofListed (ecdsa sampleKey).text = .ok (ecdsa sampleKey)) ∧
    (parse smallPem = .ok (rsa smallKey) ∧
      parse (titled "RSA PUBLIC KEY" (rsa smallKey)) = .ok (rsa smallKey)) ∧
    parse " k8s://example_ns/example_key " = .ok sampleAddress ∧
      parse sampleAddress.text = .ok sampleAddress := by
  have reloaded := reloads_from_text (.inl parse_samplePem)
  have titled_reloaded := reloads_from_text (.inl parse_smallPem)
  have address_reloaded := reloads_from_text (.inl parse_sampleAddress)
  exact ⟨⟨parse_samplePem, reloaded.1 sampleKey rfl⟩,
    ⟨parse_smallPem, (titled_reloaded.2.1 smallKey rfl).2⟩,
    parse_sampleAddress, address_reloaded.2.2 rfl⟩

/-- An RSA key is loaded, and its text is not. -/
theorem rsa_text_refused :
    parse smallPem = .ok (rsa smallKey) ∧ (rsa smallKey).text = "MAYCAQ8CAQM=" ∧
      ofListed "MAYCAQ8CAQM=" = .error .algorithm := by
  refine ⟨parse_smallPem, text_smallKey, ?_⟩
  rw [← text_smallKey]
  exact ofListed_rsa smallKey

end Sample

end SignedAdmission.TrustRoot
