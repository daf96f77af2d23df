import Mathlib.Data.List.TakeWhile
import SignedAdmission.Notary.Challenge
import SignedAdmission.Proofs.Checks
import SignedAdmission.Proofs.Lookup
import SignedAdmission.Proofs.Text.Occurrence
import SignedAdmission.Proofs.Text.Split

/-! Which challenges are followed, and to which address. The scheme is looked for anywhere in the
header, so it may be the end of a longer word or stand behind another challenge. The address begins
with the realm, which only has to begin like the name of a secure scheme. -/
namespace SignedAdmission.Challenge

open Checks

variable {header : List Char} {name : String}

section Schemes

/-- What a header has where it names a scheme. -/
def mark (name : String) : List Char :=
  (name ++ " realm").toList

/-- The first place of a header where a scheme is named. -/
structure Names (header : List Char) (name : String) (before after : List Char) : Prop where
  known : name ∈ schemes
  text : header = before ++ (mark name ++ after)
  first : ∀ other ∈ schemes, ∀ earlier rest, header = earlier ++ (mark other ++ rest) →
    before.length ≤ earlier.length

/-- No two schemes are named in one place. -/
theorem eq_of_mark_starts : ∀ name ∈ schemes, ∀ other ∈ schemes,
    mark name <+: mark other → name = other := by
  decide +kernel

/-- Whether a header begins with a scheme, and with which one. -/
theorem find?_mark (cs : List Char) :
    (∃ name, (schemes.find? fun name => (name ++ " realm").toList.isPrefixOf cs) = some name ∧
      name ∈ schemes ∧ mark name <+: cs) ∨
    (schemes.find? fun name => (name ++ " realm").toList.isPrefixOf cs) = none ∧
      ∀ name ∈ schemes, ¬ mark name <+: cs := by
  cases found : schemes.find? fun name => (name ++ " realm").toList.isPrefixOf cs with
  | some name =>
    have starts := List.find?_some found
    exact .inl ⟨name, rfl, List.mem_of_find?_eq_some found, List.isPrefixOf_iff_prefix.mp starts⟩
  | none =>
    rw [List.find?_eq_none] at found
    refine .inr ⟨rfl, ?_⟩
    intro name member starts
    exact found name member (List.isPrefixOf_iff_prefix.mpr starts)

/-- Either the first place is found where a scheme is named, or there is none. -/
theorem scheme?_cases (header : List Char) :
    (∃ name before after, scheme? header = some name ∧ Names header name before after) ∨
      scheme? header = none ∧ ∀ name ∈ schemes, ¬ mark name <:+: header := by
  induction header with
  | nil =>
    refine .inr ⟨rfl, ?_⟩
    decide
  | cons c cs ih =>
    rw [scheme?]
    rcases find?_mark (c :: cs) with ⟨name, found, known, after, text⟩ | ⟨missed, absent⟩
    · refine .inl ⟨name, [], after, by rw [found, Option.some_or], known, text.symm, ?_⟩
      intro _ _ _ _ _
      exact Nat.zero_le _
    · rw [missed, Option.none_or]
      rcases ih with ⟨name, before, after, found, known, text, first⟩ | ⟨missed, nowhere⟩
      · refine .inl ⟨name, c :: before, after, found, known, by rw [text, List.cons_append], ?_⟩
        intro other member earlier rest same
        cases earlier with
        | nil => exact absurd ⟨rest, same.symm⟩ (absent other member)
        | cons d earlier =>
          exact Nat.succ_le_succ (first other member earlier rest (List.cons.inj same).2)
      · refine .inr ⟨missed, ?_⟩
        intro name known
        rw [List.infix_cons_iff, not_or]
        exact ⟨absent name known, nowhere name known⟩

theorem Names.unique {other : String} {before start after rest : List Char}
    (h : Names header name before after) (h' : Names header other start rest) :
    name = other ∧ before = start := by
  have same := h.text.symm.trans h'.text
  have places : before.length = start.length := by
    apply Nat.le_antisymm
    · exact h.first other h'.known start rest h'.text
    · exact h'.first name h.known before after h.text
  obtain ⟨starts, same⟩ := List.append_inj same places
  refine ⟨?_, starts⟩
  have marks : mark name <+: mark other ∨ mark other <+: mark name := by
    have start : mark name <+: mark name ++ after := List.prefix_append ..
    have otherStart : mark other <+: mark name ++ after := ⟨rest, same.symm⟩
    exact List.prefix_or_prefix_of_prefix start otherStart
  rcases marks with starts | starts
  · exact eq_of_mark_starts name h.known other h'.known starts
  · exact (eq_of_mark_starts other h'.known name h.known starts).symm

/-- The scheme of a header is the known one that it names first. -/
theorem scheme?_eq_some :
    scheme? header = some name ↔ ∃ before after, Names header name before after := by
  rcases scheme?_cases header with ⟨found, before, after, read, names⟩ | ⟨missed, nowhere⟩
  · rw [read, Option.some.injEq]
    constructor
    · rintro rfl
      exact ⟨before, after, names⟩
    · rintro ⟨start, rest, others⟩
      exact (names.unique others).1
  · rw [missed]
    constructor
    · intro found
      contradiction
    · rintro ⟨before, after, names⟩
      have occurs : mark name <:+: header := ⟨before, after, by rw [names.text, List.append_assoc]⟩
      exact absurd occurs (nowhere name names.known)

end Schemes

section Parameters

variable {cs rest value : List Char} {word : List Char} {fuel : ℕ}
  {entries : List (List Char × List Char)} {key : List Char}

theorem value?_eq_some (h : value? cs = some (value, rest)) :
    value ≠ [] ∧ ∀ c ∈ value, isValueChar c = true := by
  obtain ⟨inner, rfl, some_char⟩ : ∃ inner, value = List.takeWhile isValueChar inner ∧
      value.isEmpty = false := by
    unfold value? at h
    simp only at h
    split at h <;>
    · split at h
      case isTrue => contradiction
      case isFalse some_char =>
        split at h <;>
        · obtain ⟨rfl, -⟩ := Prod.mk.inj (Option.some.inj h)
          exact ⟨_, rfl, Bool.eq_false_iff.mpr some_char⟩
  refine ⟨List.isEmpty_eq_false_iff.mp some_char, ?_⟩
  intro c member
  exact List.mem_takeWhile_imp member

theorem mem_parametersWith (h : (word, value) ∈ parametersWith fuel cs) :
    (∀ c ∈ word, Text.isWord c = true) ∧ value ≠ [] ∧ ∀ c ∈ value, isValueChar c = true := by
  induction fuel generalizing cs with
  | zero => simp [parametersWith] at h
  | succ fuel ih =>
    cases cs with
    | nil => simp [parametersWith] at h
    | cons c cs =>
      rw [parametersWith] at h
      split at h
      case isTrue => exact ih h
      case isFalse =>
        simp only at h
        split at h
        case h_1 rest equals =>
          split at h
          case h_1 found after read =>
            rcases List.mem_cons.mp h with here | later
            · obtain ⟨rfl, rfl⟩ := Prod.mk.inj here
              refine ⟨?_, value?_eq_some read⟩
              intro d member
              exact List.mem_takeWhile_imp member
            · exact ih later
          case h_2 => exact ih h
        case h_2 => exact ih h

theorem lookup_setParameter :
    (setParameter word value entries).lookup key =
      if key = word then some value else entries.lookup key := by
  induction entries with
  | nil => rw [setParameter, lookup_cons_eq_ite]
  | cons entry entries ih =>
    obtain ⟨other, old⟩ := entry
    rw [setParameter, lookup_cons_eq_ite]
    split
    case isTrue same =>
      subst same
      rw [lookup_cons_eq_ite]
      split <;> rfl
    case isFalse different =>
      rw [lookup_cons_eq_ite, ih]
      by_cases same : key = other
      · subst same
        simp [different]
      · simp [same]

theorem lookup_foldl (found : List (List Char × List Char)) :
    (found.foldl (fun merged (word, value) => setParameter word value merged) entries).lookup key =
      (found.reverse.lookup key).or (entries.lookup key) := by
  induction found generalizing entries with
  | nil => rfl
  | cons entry found ih =>
    obtain ⟨word, value⟩ := entry
    rw [List.foldl_cons, ih, lookup_setParameter, List.reverse_cons, List.lookup_append,
      lookup_cons_eq_ite, Option.or_assoc]
    split <;> rfl

/-- The last value of a parameter counts. -/
theorem lookup_merged : (merged header).lookup key = (parameters header).reverse.lookup key := by
  rw [merged, lookup_foldl, List.lookup_nil, Option.or_none]

theorem mem_setParameter {entry : List Char × List Char}
    (h : entry ∈ setParameter word value entries) : entry = (word, value) ∨ entry ∈ entries := by
  induction entries with
  | nil => exact .inl (List.mem_singleton.mp h)
  | cons first entries ih =>
    obtain ⟨other, old⟩ := first
    rw [setParameter] at h
    split at h
    case isTrue =>
      rcases List.mem_cons.mp h with here | later
      · exact .inl here
      · exact .inr (List.mem_cons_of_mem _ later)
    case isFalse =>
      rcases List.mem_cons.mp h with here | later
      · exact .inr (here ▸ List.mem_cons_self)
      · exact (ih later).imp_right (List.mem_cons_of_mem _)

theorem mem_foldl {entry : List Char × List Char} {found : List (List Char × List Char)}
    (h : entry ∈ found.foldl (fun merged (word, value) => setParameter word value merged) entries) :
    entry ∈ found ∨ entry ∈ entries := by
  induction found generalizing entries with
  | nil => exact .inr h
  | cons first found ih =>
    rw [List.foldl_cons] at h
    rcases ih h with later | merged
    · exact .inl (List.mem_cons_of_mem _ later)
    · rcases mem_setParameter merged with rfl | earlier
      · exact .inl List.mem_cons_self
      · exact .inr earlier

theorem mem_merged {entry : List Char × List Char} (h : entry ∈ merged header) :
    entry ∈ parameters header := by
  rcases mem_foldl h with found | none
  · exact found
  · contradiction

end Parameters

section Addresses

variable {address before after realm : List Char} {notary challenge place : String}

/-- The parameters that make up the query. -/
def others (header : List Char) : List (List Char × List Char) :=
  (merged header).filter fun (name, _) => name != realmName

/-- A challenge that is followed, to which address, and where its scheme and its realm are found. -/
structure Follows (header address before after realm : List Char) : Prop where
  bearer : Names header "Bearer" before after
  last : (parameters header).reverse.lookup realmName = some realm
  built : address = url realm (others header)
  secure : "https".toList <+: realm
  flat : ¬ "..".toList <:+: address
  single : ¬ ∃ start between rest,
    address = start ++ ("//".toList ++ (between ++ ("//".toList ++ rest)))

theorem tokenUrl_of_other (other : scheme? challenge.toList ≠ some "Bearer") :
    tokenUrl notary challenge =
      .error (.authenticationType ((scheme? challenge.toList).getD challenge)) := by
  unfold tokenUrl
  simp only
  split
  case h_1 bearer => exact absurd bearer other
  case h_2 named _ found =>
    rw [found]
    rfl
  case h_3 unnamed =>
    rw [unnamed]
    rfl

theorem tokenUrl_of_missing (bearer : scheme? challenge.toList = some "Bearer")
    (missing : (merged challenge.toList).lookup realmName = none) :
    tokenUrl notary challenge = .error (.missing (.realm notary)) := by
  unfold tokenUrl
  simp only [bearer, missing]
  rfl

theorem tokenUrl_of_realm (bearer : scheme? challenge.toList = some "Bearer")
    (last : (merged challenge.toList).lookup realmName = some realm)
    (built : address = url realm (others challenge.toList)) :
    tokenUrl notary challenge = .ok place ↔
      String.ofList address = place ∧ "https".toList <+: address ∧ ¬ "..".toList <:+: address ∧
        ¬ 1 < Text.occurrences "//".toList address := by
  rw [others] at built
  unfold tokenUrl
  simp only [bearer, last, pure_bind, ← built, Bool.not_eq_true', Bool.or_eq_true,
    Text.contains_iff, decide_eq_true_iff]
  split
  case isTrue insecure =>
    rw [bind_eq_ok]
    simp only [throw_ne_ok, false_and, exists_false, false_iff]
    rintro ⟨-, secure, -⟩
    rw [List.isPrefixOf_iff_prefix.mpr secure] at insecure
    contradiction
  case isFalse secure =>
    have secure : "https".toList <+: address :=
      List.isPrefixOf_iff_prefix.mp ((Bool.not_eq_false _).mp secure)
    split
    case isTrue traversal =>
      rw [bind_eq_ok]
      simp only [throw_ne_ok, false_and, exists_false, false_iff]
      rintro ⟨-, -, flat, single⟩
      exact traversal.elim flat single
    case isFalse sound =>
      rw [not_or] at sound
      rw [pure_eq_ok]
      exact (and_iff_left ⟨secure, sound⟩).symm

theorem tokenUrl_eq_ok :
    tokenUrl notary challenge = .ok place ↔
      ∃ before after realm, Follows challenge.toList place.toList before after realm := by
  constructor
  · intro found
    by_cases bearer : scheme? challenge.toList = some "Bearer"
    · obtain ⟨before, after, names⟩ := scheme?_eq_some.mp bearer
      cases last : (merged challenge.toList).lookup realmName with
      | none =>
        rw [tokenUrl_of_missing bearer last] at found
        contradiction
      | some realm =>
        obtain ⟨same, secure, flat, single⟩ := (tokenUrl_of_realm bearer last rfl).mp found
        have text : place.toList = url realm (others challenge.toList) := by
          rw [← same, String.toList_ofList]
        rw [Text.two_occurrences_iff (by decide)] at single
        rw [lookup_merged] at last
        rw [url, Text.prefix_append_cons_iff (by decide)] at secure
        rw [← text] at flat single
        exact ⟨before, after, realm, names, last, text, secure, flat, single⟩
    · rw [tokenUrl_of_other bearer] at found
      contradiction
  · rintro ⟨before, after, realm, follows⟩
    have bearer := scheme?_eq_some.mpr ⟨before, after, follows.bearer⟩
    have last := follows.last
    rw [← lookup_merged] at last
    refine (tokenUrl_of_realm bearer last follows.built).mpr
      ⟨String.ofList_toList, ?_, follows.flat, ?_⟩
    · rw [follows.built, url, Text.prefix_append_cons_iff (by decide)]
      exact follows.secure
    · rw [Text.two_occurrences_iff (by decide)]
      exact follows.single

/-- Characters of addresses. -/
def isAddressChar (c : Char) : Bool :=
  isValueChar c || c == '?' || c == '&' || c == '='

theorem isAddressChar_of_isWord {c : Char} (h : Text.isWord c = true) : isAddressChar c = true := by
  simp [isAddressChar, isValueChar, h]

theorem isAddressChar_of_isValueChar {c : Char} (h : isValueChar c = true) :
    isAddressChar c = true := by
  simp [isAddressChar, h]

/-- An address has no other characters than its parameters and what stands between them. -/
theorem Follows.isAddressChar (follows : Follows header address before after realm) :
    realm ≠ [] ∧ ∀ c ∈ address, isAddressChar c = true := by
  have listed : (realmName, realm) ∈ parameters header := by
    obtain ⟨earlier, later, split, -⟩ := List.lookup_eq_some_iff.mp follows.last
    rw [← List.mem_reverse, split]
    simp
  obtain ⟨-, some_char, chars⟩ := mem_parametersWith listed
  refine ⟨some_char, ?_⟩
  intro c member
  rw [follows.built, url, List.mem_append, List.mem_cons] at member
  rcases member with inside | rfl | query
  · exact isAddressChar_of_isValueChar (chars c inside)
  · rfl
  · change c ∈ Text.join '&' _ at query
    rcases Text.mem_join query with rfl | ⟨text, member, inside⟩
    · rfl
    · obtain ⟨⟨word, value⟩, present, rfl⟩ := List.mem_map.mp member
      obtain ⟨words, -, values⟩ := mem_parametersWith (mem_merged (List.mem_of_mem_filter present))
      rw [List.mem_append, List.mem_cons] at inside
      rcases inside with inWord | rfl | inValue
      · exact isAddressChar_of_isWord (words c inWord)
      · rfl
      · exact isAddressChar_of_isValueChar (values c inValue)

end Addresses

section Tokens

variable {before after earlier rest token : List Char}

def realmMark : List Char :=
  " realm".toList

/-- Characters that set the parts of a header field apart. -/
def delimiters : List Char :=
  ['"', '(', ')', ',', '/', ':', ';', '<', '=', '>', '?', '@', '[', '\\', ']', '{', '}']

/-- Characters of tokens in header fields: those that are visible and no delimiters. -/
def isTokenChar (c : Char) : Bool :=
  '!' ≤ c && c ≤ '~' && !delimiters.contains c

/-- The token of a header right before its first ` realm`. -/
structure Token (header token before after : List Char) : Prop where
  realm : Text.First realmMark header (before ++ token) after
  some_char : token ≠ []
  chars : ∀ c ∈ token, isTokenChar c = true
  start : ∀ c ∈ before.getLast?, isTokenChar c = false

theorem mark_eq (name : String) : mark name = name.toList ++ realmMark :=
  String.toList_append ..

theorem isTokenChar_bearer : ∀ c ∈ "Bearer".toList, isTokenChar c = true := by
  have spelled : "Bearer".toList = ['B', 'e', 'a', 'r', 'e', 'r'] := by decide
  rw [spelled]
  exact List.forall_iff_forall_mem.mp (by decide)

/-- A ` realm` that begins before the one of the scheme ends before the scheme. -/
theorem realm_infix_of_earlier
    (same : before ++ (mark "Bearer" ++ after) = earlier ++ (realmMark ++ rest))
    (less : earlier.length < (before ++ "Bearer".toList).length) : realmMark <:+: before := by
  rw [mark_eq, List.append_assoc, List.append_eq_append_iff] at same
  rcases same with ⟨inside, rfl, same⟩ | ⟨outside, rfl, same⟩
  · -- It begins inside the scheme, which has no space.
    rw [List.append_eq_append_iff] at same
    rcases same with ⟨more, rfl, -⟩ | ⟨left, split, same⟩
    · simp only [List.length_append] at less
      omega
    · cases left with
      | nil =>
        rw [List.append_nil] at split
        simp [split] at less
      | cons c left =>
        have space : ' ' = c := (List.cons.inj same).1
        have present : c ∈ "Bearer".toList := by
          rw [split]
          simp
        rw [← space] at present
        exact absurd present (by decide)
  · -- It begins before the scheme, and goes on in it only if it has the first character of one.
    rw [List.append_eq_append_iff] at same
    rcases same with ⟨more, rfl, -⟩ | ⟨left, split, same⟩
    · exact ⟨earlier, more, by rw [List.append_assoc]⟩
    · cases left with
      | nil =>
        rw [List.append_nil] at split
        exact ⟨earlier, [], by rw [split, List.append_nil]⟩
      | cons c left =>
        have first : 'B' = c := (List.cons.inj same).1
        have present : c ∈ realmMark := by
          rw [split]
          simp
        rw [← first] at present
        exact absurd present (by decide)

theorem token_iff (names : Names header "Bearer" before after) :
    (∃ start rest, Token header "Bearer".toList start rest) ↔
      ¬ realmMark <:+: before ∧ ∀ c ∈ before.getLast?, isTokenChar c = false := by
  have text : header = before ++ "Bearer".toList ++ (realmMark ++ after) := by
    rw [names.text, mark_eq, List.append_assoc, List.append_assoc]
  constructor
  · rintro ⟨start, rest, token⟩
    have named : header = start ++ (mark "Bearer" ++ rest) := by
      rw [token.realm.text, mark_eq, List.append_assoc, List.append_assoc]
    -- Each of the two places comes first, as that of a scheme or as that of ` realm`.
    have lower := names.first "Bearer" names.known start rest named
    have upper := token.realm.first _ _ text
    rw [List.length_append, List.length_append] at upper
    have places : start.length = before.length := by omega
    obtain ⟨rfl, -⟩ := List.append_inj (named.symm.trans names.text) places
    refine ⟨?_, token.start⟩
    rintro ⟨earlier, later, rfl⟩
    have first := token.realm.first earlier (later ++ (mark "Bearer" ++ after)) (by
      rw [names.text]
      simp only [List.append_assoc])
    simp only [List.length_append] at first
    have long : 0 < realmMark.length := by decide
    omega
  · rintro ⟨absent, start⟩
    refine ⟨before, after, ⟨text, ?_⟩, by decide, isTokenChar_bearer, start⟩
    intro earlier rest same
    by_contra less
    exact absent (realm_infix_of_earlier (names.text.symm.trans same) (not_le.mp less))

end Tokens

/-- A challenge is followed if the first known scheme in it is Bearer, its last realm begins like
the name of the secure scheme, and the address has neither two dots in a row nor a second pair of
slashes. The scheme is the token in front of the first ` realm` exactly if no other ` realm` comes
before it and it is not the end of a longer token, and the address begins with the secure scheme
exactly if the realm does. -/
theorem challenge_followed (notary challenge place : String) :
    (tokenUrl notary challenge = .ok place ↔
        ∃ before after realm, Follows challenge.toList place.toList before after realm) ∧
      (scheme? challenge.toList ≠ some "Bearer" →
        tokenUrl notary challenge =
          .error (.authenticationType ((scheme? challenge.toList).getD challenge))) ∧
      ∀ before after realm, Follows challenge.toList place.toList before after realm →
        ((∃ start rest, Token challenge.toList "Bearer".toList start rest) ↔
            ¬ realmMark <:+: before ∧ ∀ c ∈ before.getLast?, isTokenChar c = false) ∧
          ("https://".toList <+: place.toList ↔ "https://".toList <+: realm) ∧
          realm ≠ [] ∧ ∀ c ∈ place.toList, isAddressChar c = true := by
  refine ⟨tokenUrl_eq_ok, tokenUrl_of_other, ?_⟩
  intro before after realm follows
  refine ⟨token_iff follows.bearer, ?_, follows.isAddressChar⟩
  rw [follows.built, url, Text.prefix_append_cons_iff (by decide)]

def sampleChallenge : String :=
  "Bearer realm=\"https://sample.notary.io/token\",service=\"notary\""

def sampleAddress : String :=
  "https://sample.notary.io/token?service=notary"

theorem challenge_followed_of_sample :
    tokenUrl "default" sampleChallenge = .ok sampleAddress ∧
      ∃ before after realm, Follows sampleChallenge.toList sampleAddress.toList before after realm ∧
        (∃ start rest, Token sampleChallenge.toList "Bearer".toList start rest) ∧
        "https://".toList <+: sampleAddress.toList := by
  have found : tokenUrl "default" sampleChallenge = .ok sampleAddress :=
    toOption_eq_some.mp (by decide +kernel)
  obtain ⟨followed, -, exact⟩ := challenge_followed "default" sampleChallenge sampleAddress
  obtain ⟨before, after, realm, follows⟩ := followed.mp found
  obtain ⟨token, -⟩ := exact before after realm follows
  have starts : mark "Bearer" <+: sampleChallenge.toList := by decide +kernel
  obtain ⟨rest, text⟩ := starts
  have empty : before = [] := by
    apply List.eq_nil_of_length_eq_zero
    exact Nat.le_zero.mp (follows.bearer.first "Bearer" follows.bearer.known [] rest text.symm)
  refine ⟨found, before, after, realm, follows, token.mpr ?_, by decide +kernel⟩
  rw [empty]
  exact ⟨by decide, by simp⟩

def wordChallenge : String :=
  "XBearer realm=\"https://sample.notary.io/token\""

theorem names_wordChallenge :
    Names wordChallenge.toList "Bearer" ['X'] "=\"https://sample.notary.io/token\"".toList where
  known := by decide
  text := by decide +kernel
  first := by
    have elsewhere : ∀ other ∈ schemes, ¬ mark other <+: wordChallenge.toList := by
      decide +kernel
    intro other member earlier rest same
    cases earlier with
    | nil => exact absurd ⟨rest, same.symm⟩ (elsewhere other member)
    | cons c earlier => exact Nat.succ_le_succ (Nat.zero_le _)

/-- The end of another word is taken for the scheme, and a realm need not have one. -/
theorem loose_challenges_followed :
    (tokenUrl "default" wordChallenge = .ok "https://sample.notary.io/token?" ∧
        ¬ ∃ start rest, Token wordChallenge.toList "Bearer".toList start rest) ∧
      tokenUrl "default" "Bearer realm=\"https.sample.notary.io/token\"" =
          .ok "https.sample.notary.io/token?" ∧
        ¬ "https://".toList <+: "https.sample.notary.io/token?".toList := by
  refine ⟨⟨toOption_eq_some.mp (by decide +kernel), ?_⟩, toOption_eq_some.mp (by decide +kernel),
    by decide +kernel⟩
  rw [token_iff names_wordChallenge]
  rintro ⟨-, start⟩
  exact absurd (start 'X' rfl) (by decide)

end SignedAdmission.Challenge
