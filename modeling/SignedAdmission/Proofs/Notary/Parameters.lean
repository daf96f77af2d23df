import SignedAdmission.Proofs.Notary.Challenge
import SignedAdmission.Proofs.Reference.Grammar

/-! What becomes of the parameters of a challenge that is written as servers write them, with every
value in quotes. A value is kept up to the first character that values may not hold, and a parameter
is dropped where nothing of its value is kept. -/
namespace SignedAdmission.Challenge

open Checks

section Scanning

variable {c : Char} {cs word value rest : List Char} {fuel : ℕ}

/-- What is left of a text without a quote in front. -/
def unquoted : List Char → List Char
  | '"' :: rest => rest
  | rest => rest

theorem value?_eq (cs : List Char) :
    value? cs =
      let kept := (unquoted cs).takeWhile isValueChar
      if kept = [] then none
      else some (kept, unquoted ((unquoted cs).dropWhile isValueChar)) := by
  change (if ((unquoted cs).takeWhile isValueChar).isEmpty then none
    else match (unquoted cs).dropWhile isValueChar with
      | '"' :: rest => some ((unquoted cs).takeWhile isValueChar, rest)
      | rest => some ((unquoted cs).takeWhile isValueChar, rest)) = _
  simp only [List.isEmpty_iff]
  generalize (unquoted cs).dropWhile isValueChar = left
  split
  · rfl
  · unfold unquoted
    split <;> rfl

theorem length_unquoted (cs : List Char) : (unquoted cs).length ≤ cs.length := by
  unfold unquoted
  split <;> simp

theorem length_of_value? (read : value? cs = some (value, rest)) : rest.length ≤ cs.length := by
  rw [value?_eq] at read
  simp only [Option.ite_none_left_eq_some, Option.some.injEq, Prod.mk.injEq] at read
  obtain ⟨-, -, rfl⟩ := read
  calc (unquoted ((unquoted cs).dropWhile isValueChar)).length
      ≤ ((unquoted cs).dropWhile isValueChar).length := length_unquoted _
    _ ≤ (unquoted cs).length := (List.dropWhile_suffix _).length_le
    _ ≤ cs.length := length_unquoted cs

theorem length_of_dropWhile_eq {p : Char → Bool} (first : p c = true)
    (left : (c :: cs).dropWhile p = rest) : rest.length ≤ cs.length := by
  rw [List.dropWhile_cons_of_pos first] at left
  rw [← left]
  exact (List.dropWhile_suffix p).length_le

/-- Steps beyond the number of characters find nothing else. -/
theorem parametersWith_of_le (enough : cs.length ≤ fuel) :
    parametersWith fuel cs = parameters cs := by
  induction fuel using Nat.strong_induction_on generalizing cs with
  | _ fuel ih =>
    cases cs with
    | nil => cases fuel <;> rfl
    | cons c cs =>
      obtain ⟨steps, rfl⟩ : ∃ steps, fuel = steps + 1 :=
        Nat.exists_eq_add_one_of_ne_zero (Nat.ne_of_gt (Nat.zero_lt_of_lt enough))
      rw [List.length_cons, Nat.add_le_add_iff_right] at enough
      -- What is left after a step fits into either number of steps.
      have agree {left : List Char} (shorter : left.length ≤ cs.length) :
          parametersWith steps left = parametersWith cs.length left := by
        rw [ih steps (Nat.lt_succ_self _) (shorter.trans enough),
          ih cs.length (Nat.lt_succ_of_le enough) shorter]
      rw [parameters, List.length_cons, parametersWith, parametersWith]
      split
      case isTrue => exact agree le_rfl
      case isFalse first =>
        rw [Bool.not_eq_true, Bool.not_eq_false'] at first
        simp only
        split
        case h_1 rest equals =>
          have shorter : rest.length ≤ cs.length :=
            Nat.le_of_succ_le (length_of_dropWhile_eq first equals)
          split
          case h_1 value after read => rw [agree ((length_of_value? read).trans shorter)]
          case h_2 => exact agree shorter
        case h_2 => exact agree (length_of_dropWhile_eq first rfl)

theorem parameters_cons (other : Text.isWord c = false) : parameters (c :: cs) = parameters cs := by
  rw [parameters, List.length_cons, parametersWith, if_pos (by simpa using other), parameters]

/-- A word that no equals sign follows is passed over. -/
theorem parameters_dropWhile (unnamed : ∀ rest, cs.dropWhile Text.isWord ≠ '=' :: rest) :
    parameters (cs.dropWhile Text.isWord) = parameters cs := by
  cases cs with
  | nil => rfl
  | cons c cs =>
    by_cases first : Text.isWord c
    · rw [← parametersWith_of_le (length_of_dropWhile_eq first rfl), parameters, List.length_cons,
        parametersWith, if_neg (by simpa using first)]
      split
      case h_1 rest equals => exact absurd equals (unnamed rest)
      case h_2 => rfl
    · rw [List.dropWhile_cons_of_neg first]

theorem takeWhile_append_cons {p : Char → Bool} (stop : p c = false) :
    (cs ++ c :: rest).takeWhile p = cs.takeWhile p := by
  rw [List.takeWhile_append]
  split
  case isTrue whole =>
    rw [List.takeWhile_cons_of_neg (by simp [stop]), List.append_nil]
    exact ((List.takeWhile_prefix p).eq_of_length whole).symm
  case isFalse => rfl

theorem dropWhile_append_cons {p : Char → Bool} (stop : p c = false) :
    (cs ++ c :: rest).dropWhile p = cs.dropWhile p ++ c :: rest := by
  rw [List.dropWhile_append]
  split
  case isTrue none =>
    rw [List.dropWhile_cons_of_neg (by simp [stop]), List.isEmpty_iff.mp none, List.nil_append]
  case isFalse => rfl

/-- Nothing is found in a text without equals signs, up to a character that ends its last word. -/
theorem parameters_append (free : '=' ∉ cs) (stop : Text.isWord c = false) (other : c ≠ '=') :
    parameters (cs ++ c :: rest) = parameters rest := by
  induction h : cs.length using Nat.strong_induction_on generalizing cs with
  | _ length ih =>
    subst h
    cases cs with
    | nil => rw [List.nil_append, parameters_cons stop]
    | cons d cs =>
      by_cases first : Text.isWord d
      · have left : '=' ∉ (d :: cs).dropWhile Text.isWord := by
          intro member
          exact free ((List.dropWhile_suffix _).subset member)
        rw [← parameters_dropWhile, dropWhile_append_cons stop]
        · exact ih _ (Nat.lt_succ_of_le (length_of_dropWhile_eq first rfl)) left rfl
        · intro after equals
          rw [dropWhile_append_cons stop] at equals
          cases dropped : (d :: cs).dropWhile Text.isWord with
          | nil =>
            rw [dropped] at equals
            exact other (List.cons.inj equals).1
          | cons e dropped' =>
            rw [dropped] at equals left
            exact left ((List.cons.inj equals).1 ▸ List.mem_cons_self)
      · rw [List.cons_append, parameters_cons (by simpa using first)]
        exact ih cs.length (Nat.lt_succ_self _) (List.not_mem_of_not_mem_cons free) rfl

/-- A word right before an equals sign is the name of the value behind it, if there is one. -/
theorem parameters_named (some_char : word ≠ []) (words : ∀ c ∈ word, Text.isWord c = true) :
    parameters (word ++ '=' :: rest) =
      match value? rest with
      | some (value, after) => (word, value) :: parameters after
      | none => parameters rest := by
  obtain ⟨c, more, rfl⟩ := List.exists_cons_of_ne_nil some_char
  have stop : Text.isWord '=' = false := by decide
  have name : (c :: more ++ '=' :: rest).takeWhile Text.isWord = c :: more := by
    rw [takeWhile_append_cons stop, List.takeWhile_eq_self_iff.mpr words]
  have left : (c :: more ++ '=' :: rest).dropWhile Text.isWord = '=' :: rest := by
    rw [dropWhile_append_cons stop, List.dropWhile_eq_nil_iff.mpr words, List.nil_append]
  have shorter : rest.length ≤ (more ++ '=' :: rest).length := by
    rw [List.length_append, List.length_cons]
    omega
  rw [List.cons_append] at name left
  rw [List.cons_append, parameters, List.length_cons, parametersWith,
    if_neg (by simpa using words c List.mem_cons_self), name, left]
  cases read : value? rest with
  | none =>
    simp only [read]
    exact parametersWith_of_le shorter
  | some found =>
    simp only [read]
    rw [parametersWith_of_le ((length_of_value? read).trans shorter)]

end Scanning

section Written

variable {name value realm rest : List Char} {entries : List (List Char × List Char)}

/-- What is read of a value. -/
def kept (value : List Char) : List Char :=
  value.takeWhile isValueChar

/-- What is read of a parameter: its name with what is kept of the value, if that is not empty. -/
def keptPair? (entry : List Char × List Char) : Option (List Char × List Char) :=
  if kept entry.2 = [] then none else some (entry.1, kept entry.2)

/-- A parameter with its value in quotes. -/
def writtenEntry (name value : List Char) : List Char :=
  name ++ '=' :: '"' :: (value ++ ['"'])

def bearerStart : List Char :=
  "Bearer ".toList

/-- A challenge as servers write it. -/
def written (realm : List Char) (entries : List (List Char × List Char)) : List Char :=
  bearerStart ++ (writtenEntry realmName realm ++
    entries.flatMap fun (name, value) => ',' :: writtenEntry name value)

theorem value?_of_dropped (dropped : kept value = []) :
    value? ('"' :: (value ++ '"' :: rest)) = none := by
  have none_kept : (value ++ '"' :: rest).takeWhile isValueChar = [] :=
    (takeWhile_append_cons (by decide)).trans dropped
  rw [value?_eq]
  exact if_pos none_kept

/-- What is cut from a value is passed over. -/
theorem value?_of_kept (some_char : kept value ≠ []) (free : '=' ∉ value) (bare : '"' ∉ value) :
    ∃ after, value? ('"' :: (value ++ '"' :: rest)) = some (kept value, after) ∧
      parameters after = parameters rest := by
  have stop : isValueChar '"' = false := by decide
  have same : (value ++ '"' :: rest).takeWhile isValueChar = kept value :=
    takeWhile_append_cons stop
  refine ⟨unquoted (value.dropWhile isValueChar ++ '"' :: rest), ?_, ?_⟩
  · rw [← same] at some_char ⊢
    rw [value?_eq, ← dropWhile_append_cons stop]
    exact if_neg some_char
  · have within := (List.dropWhile_suffix isValueChar (l := value)).subset
    cases cut : value.dropWhile isValueChar with
    | nil => rfl
    | cons c more =>
      rw [cut] at within
      have unchanged : unquoted (c :: more ++ '"' :: rest) = c :: more ++ '"' :: rest := by
        unfold unquoted
        split
        case h_1 left quoted =>
          obtain ⟨rfl, -⟩ := List.cons.inj quoted
          exact absurd (within List.mem_cons_self) bare
        case h_2 => rfl
      rw [unchanged]
      exact parameters_append (fun member => free (within member)) (by decide) (by decide)

theorem parameters_writtenEntry (some_char : name ≠ []) (words : ∀ c ∈ name, Text.isWord c = true)
    (free : '=' ∉ value) (bare : '"' ∉ value) :
    parameters (writtenEntry name value ++ rest) =
      (keptPair? (name, value)).toList ++ parameters rest := by
  rw [writtenEntry, List.append_assoc, List.cons_append, List.cons_append, List.append_assoc,
    List.singleton_append, parameters_named some_char words, keptPair?]
  by_cases dropped : kept value = []
  · rw [value?_of_dropped dropped, if_pos dropped]
    calc parameters ('"' :: (value ++ '"' :: rest))
        = parameters (value ++ '"' :: rest) := parameters_cons (by decide)
      _ = parameters rest := parameters_append free (by decide) (by decide)
  · obtain ⟨after, read, resumed⟩ := value?_of_kept dropped free bare
    rw [read, if_neg dropped]
    exact congrArg _ resumed

/-- Characters that the values of challenges are made of, those of scopes among them. -/
def isSendableChar (c : Char) : Bool :=
  c.isAlphanum || ['-', '.', '_', ':', '/', ',', '*'].contains c

/-- A realm and parameters as registries send them. -/
structure Sendable (realm : List Char) (entries : List (List Char × List Char)) : Prop where
  named : ∀ entry ∈ entries, entry.1 ≠ [] ∧ ∀ c ∈ entry.1, c.isAlphanum = true
  distinct : (entries.map Prod.fst).Nodup
  other : realmName ∉ entries.map Prod.fst
  filled : ∀ value ∈ realm :: entries.map Prod.snd, value ≠ [] ∧
    ∀ c ∈ value, isSendableChar c = true

theorem isWord_of_isAlphanum {c : Char} (h : c.isAlphanum = true) : Text.isWord c = true := by
  have ascii : c.toNat < 0x80 := by
    simp only [Char.isAlphanum, Reference.isAlpha_eq, Bool.or_eq_true, Reference.isUpper_iff,
      Reference.isLower_iff, Char.isDigit_iff_toNat] at h
    rcases h with (⟨-, high⟩ | ⟨-, high⟩) | ⟨-, high⟩
    · exact high.trans_lt (by decide)
    · exact high.trans_lt (by decide)
    · exact high.trans_lt (by decide)
  rw [Text.isWord, if_pos ascii, h, Bool.true_or]

theorem not_mem_of_isSendableChar (chars : ∀ c ∈ value, isSendableChar c = true) :
    '=' ∉ value ∧ '"' ∉ value := by
  constructor <;>
  · intro member
    exact absurd (chars _ member) (by decide)

theorem parameters_entries {entries : List (List Char × List Char)}
    (named : ∀ entry ∈ entries, entry.1 ≠ [] ∧ ∀ c ∈ entry.1, c.isAlphanum = true)
    (chars : ∀ entry ∈ entries, ∀ c ∈ entry.2, isSendableChar c = true) :
    parameters (entries.flatMap fun (name, value) => ',' :: writtenEntry name value) =
      entries.filterMap keptPair? := by
  induction entries with
  | nil => rfl
  | cons entry entries ih =>
    obtain ⟨name, value⟩ := entry
    rw [List.forall_mem_cons] at named chars
    obtain ⟨free, bare⟩ := not_mem_of_isSendableChar chars.1
    have words : ∀ c ∈ name, Text.isWord c = true :=
      fun c member => isWord_of_isAlphanum (named.1.2 c member)
    rw [List.flatMap_cons, List.cons_append, parameters_cons (by decide),
      parameters_writtenEntry named.1.1 words free bare, ih named.2 chars.2, List.filterMap_cons]
    cases keptPair? (name, value) <;> rfl

theorem parameters_written (sendable : Sendable realm entries) :
    parameters (written realm entries) =
      (keptPair? (realmName, realm)).toList ++ entries.filterMap keptPair? := by
  obtain ⟨⟨-, chars⟩, filled⟩ := List.forall_mem_cons.mp sendable.filled
  obtain ⟨free, bare⟩ := not_mem_of_isSendableChar chars
  have scheme : bearerStart = "Bearer".toList ++ [' '] := by decide
  have words : ∀ c ∈ realmName, Text.isWord c = true := List.all_eq_true.mp (by decide)
  have chars : ∀ entry ∈ entries, ∀ c ∈ entry.2, isSendableChar c = true :=
    fun entry member => (filled entry.2 (List.mem_map_of_mem member)).2
  rw [written, scheme, List.append_assoc, List.singleton_append,
    parameters_append (by decide) (by decide) (by decide),
    parameters_writtenEntry (by decide) words free bare,
    parameters_entries sendable.named chars]

theorem setParameter_of_not_mem {found : List (List Char × List Char)}
    (fresh : name ∉ found.map Prod.fst) :
    setParameter name value found = found ++ [(name, value)] := by
  induction found with
  | nil => rfl
  | cons entry found ih =>
    obtain ⟨other, old⟩ := entry
    rw [List.map_cons, List.mem_cons, not_or] at fresh
    rw [setParameter, if_neg (Ne.symm fresh.1), ih fresh.2, List.cons_append]

/-- Parameters with new names are appended one after the other. -/
theorem foldl_setParameter {found before : List (List Char × List Char)}
    (distinct : ((before ++ found).map Prod.fst).Nodup) :
    found.foldl (fun merged (name, value) => setParameter name value merged) before =
      before ++ found := by
  induction found generalizing before with
  | nil => exact (List.append_nil _).symm
  | cons entry found ih =>
    obtain ⟨name, value⟩ := entry
    have fresh : name ∉ before.map Prod.fst := by
      rw [List.map_append, List.map_cons, List.nodup_append] at distinct
      intro member
      exact distinct.2.2 name member name List.mem_cons_self rfl
    have split : before ++ (name, value) :: found = before ++ [(name, value)] ++ found :=
      List.append_cons before _ found
    change found.foldl _ (setParameter name value before) = _
    rw [setParameter_of_not_mem fresh, split]
    exact ih (split ▸ distinct)

/-- Where no name comes twice, merging changes nothing. -/
theorem merged_eq_parameters {header : List Char}
    (distinct : ((parameters header).map Prod.fst).Nodup) : merged header = parameters header :=
  foldl_setParameter distinct

theorem map_filterMap_keptPair? :
    ((entries.filterMap keptPair?).map Prod.fst).Sublist (entries.map Prod.fst) := by
  induction entries with
  | nil => exact .slnil
  | cons entry entries ih =>
    rw [List.filterMap_cons, List.map_cons, keptPair?]
    split_ifs
    · exact ih.cons _
    · exact ih.cons_cons _

variable (sendable : Sendable realm entries)

include sendable

theorem Sendable.names_of_kept :
    realmName ∉ (entries.filterMap keptPair?).map Prod.fst ∧
      ((entries.filterMap keptPair?).map Prod.fst).Nodup :=
  ⟨fun member => sendable.other (map_filterMap_keptPair?.subset member),
    sendable.distinct.sublist map_filterMap_keptPair?⟩

theorem lookup_written {found : List Char} :
    (parameters (written realm entries)).reverse.lookup realmName = some found ↔
      kept realm ≠ [] ∧ found = kept realm := by
  have absent : (entries.filterMap keptPair?).reverse.lookup realmName = none := by
    rw [List.lookup_eq_none_iff]
    intro entry member
    have other : realmName ≠ entry.1 := by
      intro same
      apply sendable.names_of_kept.1
      rw [same]
      exact List.mem_map_of_mem (List.mem_reverse.mp member)
    simpa using other
  rw [parameters_written sendable, List.reverse_append, List.lookup_append, absent, Option.none_or,
    keptPair?]
  split_ifs with dropped
  · simp [dropped]
  · simp [dropped, eq_comm]

theorem others_written : others (written realm entries) = entries.filterMap keptPair? := by
  obtain ⟨free, distinct⟩ := sendable.names_of_kept
  have kept_others : (entries.filterMap keptPair?).filter (fun (name, _) => name != realmName) =
      entries.filterMap keptPair? := by
    rw [List.filter_eq_self]
    intro entry member
    have other : entry.1 ≠ realmName := fun same => free (same ▸ List.mem_map_of_mem member)
    simpa using other
  have names : ((parameters (written realm entries)).map Prod.fst).Nodup := by
    rw [parameters_written sendable, keptPair?]
    split_ifs
    · exact distinct
    · exact List.nodup_cons.mpr ⟨free, distinct⟩
  rw [others, merged_eq_parameters names, parameters_written sendable, List.filter_append,
    kept_others, keptPair?]
  split_ifs
  · rfl
  · simp

omit sendable

theorem names_written (realm : List Char) (entries : List (List Char × List Char)) :
    ∃ after, Names (written realm entries) "Bearer" [] after := by
  have starts : mark "Bearer" <+: bearerStart ++ realmName := by decide
  have longer : bearerStart ++ realmName <+: written realm entries := by
    rw [written, writtenEntry, List.append_assoc, ← List.append_assoc]
    exact List.prefix_append ..
  obtain ⟨after, text⟩ := starts.trans longer
  exact ⟨after, by decide, text.symm, fun _ _ _ _ _ => Nat.zero_le _⟩

end Written

section Addresses

variable {realm : List Char} {entries : List (List Char × List Char)}

theorem tokenUrl_written (sendable : Sendable realm entries) (notary place : String) :
    tokenUrl notary (String.ofList (written realm entries)) = .ok place ↔
      place.toList = url (kept realm) (entries.filterMap keptPair?) ∧
        "https".toList <+: kept realm ∧ ¬ "..".toList <:+: place.toList ∧
        ¬ ∃ start between rest,
          place.toList = start ++ ("//".toList ++ (between ++ ("//".toList ++ rest))) := by
  rw [tokenUrl_eq_ok, String.toList_ofList]
  constructor
  · rintro ⟨before, after, found, follows⟩
    obtain ⟨-, rfl⟩ := (lookup_written sendable).mp follows.last
    refine ⟨?_, follows.secure, follows.flat, follows.single⟩
    rw [follows.built, others_written sendable]
  · rintro ⟨built, secure, flat, single⟩
    obtain ⟨after, names⟩ := names_written realm entries
    have some_char : kept realm ≠ [] := by
      intro dropped
      rw [dropped] at secure
      exact absurd secure (by decide)
    refine ⟨[], after, kept realm, names, (lookup_written sendable).mpr ⟨some_char, rfl⟩, ?_,
      secure, flat, single⟩
    rw [built, others_written sendable]

theorem isValueChar_iff_of_isSendableChar {c : Char} (sendable : isSendableChar c = true) :
    isValueChar c = true ↔ c ≠ ',' ∧ c ≠ '*' := by
  constructor
  · intro plain
    constructor <;>
    · rintro rfl
      exact absurd plain (by decide)
  · rintro ⟨noComma, noStar⟩
    rw [isSendableChar, Bool.or_eq_true, List.contains_iff_mem] at sendable
    rcases sendable with alphanum | mark
    · simp [isValueChar, isWord_of_isAlphanum alphanum]
    · simp only [List.mem_cons, List.not_mem_nil, or_false, noComma, noStar] at mark
      rcases mark with rfl | rfl | rfl | rfl | rfl <;> decide

/-- Values without commas and stars are kept as they are. -/
theorem kept_eq_self {value : List Char} (chars : ∀ c ∈ value, isSendableChar c = true)
    (noComma : ',' ∉ value) (noStar : '*' ∉ value) : kept value = value := by
  rw [kept, List.takeWhile_eq_self_iff]
  intro c member
  refine (isValueChar_iff_of_isSendableChar (chars c member)).mpr ⟨?_, ?_⟩
  · rintro rfl
    exact noComma member
  · rintro rfl
    exact noStar member

/-- Every character of a value is in the address that is built of it. -/
theorem mem_url {c : Char} {value : List Char} (listed : value ∈ realm :: entries.map Prod.snd)
    (member : c ∈ value) : c ∈ url realm entries := by
  rw [url, List.mem_append, List.mem_cons]
  rcases List.mem_cons.mp listed with rfl | listed
  · exact .inl member
  · obtain ⟨⟨name, value⟩, entry, rfl⟩ := List.mem_map.mp listed
    refine .inr (.inr (Text.mem_join_of_mem (List.mem_map_of_mem entry) ?_))
    exact List.mem_append_right _ (List.mem_cons_of_mem _ member)

theorem url_kept (sendable : Sendable realm entries)
    (plain : ∀ value ∈ realm :: entries.map Prod.snd, ',' ∉ value ∧ '*' ∉ value) :
    url (kept realm) (entries.filterMap keptPair?) = url realm entries := by
  have whole : ∀ value ∈ realm :: entries.map Prod.snd, kept value = value := fun value listed =>
    kept_eq_self (sendable.filled value listed).2 (plain value listed).1 (plain value listed).2
  have entries_kept : entries.filterMap keptPair? = entries := by
    conv_rhs => rw [← List.filterMap_some (l := entries)]
    apply List.filterMap_congr
    intro entry member
    have listed : entry.2 ∈ realm :: entries.map Prod.snd :=
      List.mem_cons_of_mem _ (List.mem_map_of_mem member)
    rw [keptPair?, whole _ listed, if_neg (sendable.filled _ listed).1]
  rw [entries_kept, whole realm List.mem_cons_self]

/-- Of a challenge as registries send them, every value is kept up to its first comma or star, and a
parameter whose value begins with one is left out. The address is the realm with all parameters
exactly if none of the values has such a character. -/
theorem written_address (sendable : Sendable realm entries) (notary place : String) :
    (tokenUrl notary (String.ofList (written realm entries)) = .ok place ↔
        place.toList = url (kept realm) (entries.filterMap keptPair?) ∧
          "https".toList <+: kept realm ∧ ¬ "..".toList <:+: place.toList ∧
          ¬ ∃ start between rest,
            place.toList = start ++ ("//".toList ++ (between ++ ("//".toList ++ rest)))) ∧
      (tokenUrl notary (String.ofList (written realm entries)) = .ok place →
        (place.toList = url realm entries ↔
          ∀ value ∈ realm :: entries.map Prod.snd, ',' ∉ value ∧ '*' ∉ value)) := by
  have followed := tokenUrl_written sendable notary place
  refine ⟨followed, ?_⟩
  intro found
  constructor
  · intro built value listed
    obtain ⟨before, after, first, follows⟩ := tokenUrl_eq_ok.mp found
    obtain ⟨-, chars⟩ := follows.isAddressChar
    rw [built] at chars
    constructor <;>
    · intro member
      exact absurd (chars _ (mem_url listed member)) (by decide)
  · intro plain
    rw [(followed.mp found).1, url_kept sendable plain]

end Addresses

section Sample

def scopeRealm : List Char :=
  "https://sample.notary.io/token".toList

/-- A scope with two actions, and a parameter that stands for any value. -/
def scopeEntries : List (List Char × List Char) :=
  [("service".toList, "notary".toList), ("scope".toList, "repository:team/app:pull,push".toList),
    ("actions".toList, "*".toList)]

def scopeChallenge : String :=
  "Bearer realm=\"https://sample.notary.io/token\",service=\"notary\"," ++
    "scope=\"repository:team/app:pull,push\",actions=\"*\""

def cutAddress : String :=
  "https://sample.notary.io/token?service=notary&scope=repository:team/app:pull"

theorem filled_of_all {p : Char → Bool} {texts : List (List Char)}
    (checked : texts.all (fun text => !text.isEmpty && text.all p) = true) :
    ∀ text ∈ texts, text ≠ [] ∧ ∀ c ∈ text, p c = true := by
  simpa [List.all_eq_true] using checked

theorem sendable_scope : Sendable scopeRealm scopeEntries where
  named := by
    have names : ∀ name ∈ scopeEntries.map Prod.fst,
        name ≠ [] ∧ ∀ c ∈ name, c.isAlphanum = true := filled_of_all (by decide)
    exact fun entry member => names _ (List.mem_map_of_mem member)
  distinct := by decide
  other := by decide
  filled := filled_of_all (by decide)

theorem written_scope : String.ofList (written scopeRealm scopeEntries) = scopeChallenge := by
  decide

theorem tokenUrl_scope : tokenUrl "default" scopeChallenge = .ok cutAddress :=
  toOption_eq_some.mp (by decide)

theorem written_address_of_scope :
    Sendable scopeRealm scopeEntries ∧
      tokenUrl "default" (String.ofList (written scopeRealm scopeEntries)) = .ok cutAddress ∧
      cutAddress.toList = url (kept scopeRealm) (scopeEntries.filterMap keptPair?) ∧
      cutAddress.toList ≠ url scopeRealm scopeEntries := by
  have found := tokenUrl_scope
  rw [← written_scope] at found
  obtain ⟨followed, whole⟩ := written_address sendable_scope "default" cutAddress
  refine ⟨sendable_scope, found, (followed.mp found).1, ?_⟩
  intro complete
  have plain := (whole found).mp complete ['*'] (by decide)
  exact absurd plain.2 (by decide)

/-- Of two actions of a scope only the first one is asked for, and another parameter not at all. -/
theorem cut_scope_followed :
    Sendable scopeRealm scopeEntries ∧
      String.ofList (written scopeRealm scopeEntries) = scopeChallenge ∧
      tokenUrl "default" scopeChallenge = .ok cutAddress ∧
      String.ofList (url scopeRealm scopeEntries) = "https://sample.notary.io/token?" ++
        "service=notary&scope=repository:team/app:pull,push&actions=*" ∧
      cutAddress ≠ String.ofList (url scopeRealm scopeEntries) := by
  refine ⟨sendable_scope, written_scope, tokenUrl_scope, by decide, by decide⟩

end Sample

end SignedAdmission.Challenge
