import SignedAdmission.Proofs.Json.Grammar
import SignedAdmission.Proofs.Json.Lexemes
import SignedAdmission.Proofs.Json.Replacement

/-! Texts of values. Bytes are read as a value exactly if they are the text of tokens that the grammar
derives the value from. The compact form of a value without numbers is such a text, so that it is
read back. -/
namespace SignedAdmission.Json

open Grammar

section Texts

variable {state middle after : ReadState} {tokens : List Token} {cs : List Char}
  {body : List UInt8} {value : Json}

/-- No number comes right after another one. -/
theorem step?_number {m : Number} (h : state.step? (.number m) = some after) (n : Number) :
    after.step? (.number n) = none := by
  have completed (stack : List Frame) :
      (ReadState.complete (.number m) stack).step? (.number n) = none := by
    rcases stack with - | ⟨_ | _, stack⟩ <;> rfl
  cases state with
  | value stack =>
    obtain rfl := Option.some.inj h
    exact completed stack
  | firstItem stack =>
    obtain rfl := Option.some.inj h
    rfl
  | _ => simp [ReadState.step?] at h

theorem Leads.isChain (run : Leads state tokens after) : tokens.IsChain Apart := by
  induction tokens generalizing state with
  | nil => exact .nil
  | cons token tokens ih =>
    rw [Leads, List.foldlM_cons] at run
    obtain ⟨middle, first, rest⟩ := Option.bind_eq_some_iff.mp run
    have later := ih rest
    cases tokens with
    | nil => exact .singleton token
    | cons next tokens =>
      refine .cons_cons ?_ later
      obtain ⟨_, second, -⟩ := Option.bind_eq_some_iff.mp rest
      cases token with
      | number m =>
        cases next with
        | number n => simp [step?_number first n] at second
        | _ => trivial
      | _ => trivial

theorem Grammar.Value.isChain {depth : ℕ} (h : Value depth tokens value) :
    tokens.IsChain Apart := by
  have run := h.leads (List.replicate depth (.array [])) List.length_replicate
  exact run.isChain

theorem parse?_eq_some_iff :
    parse? cs = some value ↔ ∃ tokens, Spells cs tokens ∧ Value 0 tokens value := by
  rw [parse?, Option.bind_eq_bind, Option.bind_eq_some_iff]
  constructor
  · rintro ⟨tokens, scanned, built⟩
    have derived := ofTokens?_eq_some_iff.mp built
    exact ⟨tokens, (scan?_eq_some_iff derived.isChain).mp scanned, derived⟩
  · rintro ⟨tokens, spells, derived⟩
    exact ⟨tokens, (scan?_eq_some_iff derived.isChain).mpr spells,
      ofTokens?_eq_some_iff.mpr derived⟩

/-- The bytes are the text of a value. -/
def Denotes (body : List UInt8) (value : Json) : Prop :=
  ∃ (text : String) (tokens : List Token), body = text.toUTF8.toList ∧
    Spells text.toList tokens ∧ Value 0 tokens value

theorem ofBytes?_eq_some_iff : ofBytes? body = some value ↔ Denotes body value := by
  rw [ofBytes?, Option.bind_eq_bind, Option.bind_eq_some_iff]
  simp only [Utf8.fromUTF8?_eq_some_iff, parse?_eq_some_iff]
  constructor
  · rintro ⟨text, encoded, tokens, spells, derived⟩
    exact ⟨text, tokens, encoded, spells, derived⟩
  · rintro ⟨text, tokens, encoded, spells, derived⟩
    exact ⟨text, encoded, tokens, spells, derived⟩

theorem ofBytes?_eq_none_iff : ofBytes? body = none ↔ ¬ ∃ value, Denotes body value := by
  rw [Option.eq_none_iff_forall_ne_some, not_exists]
  simp only [ne_eq, ofBytes?_eq_some_iff]

end Texts

section Printed

/-- Values without numbers, in whose objects no key comes twice, that may lie inside `depth`
containers. -/
inductive Textual : ℕ → Json → Prop
  | null {depth} : Textual depth .null
  | bool {depth} (b : Bool) : Textual depth (.bool b)
  | string {depth} (s : String) : Textual depth (.string s)
  | array {depth items} (room : depth < ReadState.maxDepth)
    (inside : ∀ item ∈ items, Textual (depth + 1) item) : Textual depth (.array items)
  | object {depth} {fields : Fields} (room : depth < ReadState.maxDepth)
    (distinct : (fields.map Prod.fst).Nodup)
    (inside : ∀ field ∈ fields, Textual (depth + 1) field.2) : Textual depth (.object fields)

variable {depth : ℕ} {cs : List Char} {tokens : List Token}

theorem textual_array_iff {items : List Json} :
    Textual depth (.array items) ↔
      depth < ReadState.maxDepth ∧ ∀ item ∈ items, Textual (depth + 1) item := by
  constructor
  · intro h
    cases h with
    | array room inside => exact ⟨room, inside⟩
  · rintro ⟨room, inside⟩
    exact .array room inside

theorem textual_object_iff {fields : Fields} :
    Textual depth (.object fields) ↔ depth < ReadState.maxDepth ∧
      (fields.map Prod.fst).Nodup ∧ ∀ field ∈ fields, Textual (depth + 1) field.2 := by
  constructor
  · intro h
    cases h with
    | object room distinct inside => exact ⟨room, distinct, inside⟩
  · rintro ⟨room, distinct, inside⟩
    exact .object room distinct inside

theorem Grammar.Spells.append {cs' : List Char} {tokens' : List Token} (h : Spells cs tokens)
    (h' : Spells cs' tokens') : Spells (cs ++ cs') (tokens ++ tokens') := by
  induction h with
  | nil => exact h'
  | blank blank _ ih => exact .blank blank ih
  | cons first _ ih =>
    rw [List.append_assoc]
    exact .cons first ih

theorem Grammar.Lexeme.spells {token : Token} (h : Lexeme cs token) : Spells cs [token] := by
  simpa using Spells.cons h .nil

theorem lexeme_stringText (s : String) : Lexeme (stringText s) (.string s) := by
  obtain ⟨spelled, quoted, same⟩ := exists_quoted (quoted?_stringText s.toList [])
  obtain rfl := List.append_cancel_right same
  simpa [stringText] using Lexeme.string quoted

theorem collect_of_nodup {fields : Fields} (distinct : (fields.map Prod.fst).Nodup) :
    collect fields = fields := by
  induction fields using List.reverseRecOn with
  | nil => rfl
  | append_singleton fields field ih =>
    obtain ⟨key, value⟩ := field
    rw [List.map_append, List.nodup_append] at distinct
    obtain ⟨front, -, apart⟩ := distinct
    have absent : fields.lookup key = none := by
      rw [List.lookup_eq_none_iff]
      intro other member
      have differs := apart other.1 (List.mem_map_of_mem member) key (by simp)
      simpa using differs.symm
    have appended : setField key value (fields ++ []) = fields ++ setField key value [] :=
      setField_append_of_none absent
    rw [List.append_nil] at appended
    rw [collect_append, ih front]
    exact appended

/-- The tokens that are written for a value. -/
def Written (depth : ℕ) (value : Json) : Prop :=
  ∃ tokens, Spells value.text tokens ∧ Value depth tokens value

theorem exists_items {front items : List Json} (begun : Items depth tokens front)
    (spells : Spells cs tokens) (written : ∀ item ∈ items, Written depth item) :
    ∃ tokens', Spells (cs ++ moreItems items) tokens' ∧ Items depth tokens' (front ++ items) := by
  induction items generalizing front cs tokens with
  | nil => exact ⟨tokens, by simpa [moreItems] using spells, by simpa using begun⟩
  | cons item items ih =>
    rw [List.forall_mem_cons] at written
    obtain ⟨added, text, derived⟩ := written.1
    have longer := spells.append (Lexeme.comma.spells.append text)
    obtain ⟨tokens', all, complete⟩ := ih (begun.snoc derived) longer written.2
    refine ⟨tokens', ?_, by simpa using complete⟩
    rw [moreItems, itemsText_cons]
    simpa using all

theorem exists_members {front fields : Fields} (begun : Members depth tokens front)
    (spells : Spells cs tokens) (written : ∀ field ∈ fields, Written depth field.2) :
    ∃ tokens', Spells (cs ++ moreFields fields) tokens' ∧
      Members depth tokens' (front ++ fields) := by
  induction fields generalizing front cs tokens with
  | nil => exact ⟨tokens, by simpa [moreFields] using spells, by simpa using begun⟩
  | cons field fields ih =>
    obtain ⟨key, value⟩ := field
    rw [List.forall_mem_cons] at written
    obtain ⟨added, text, derived⟩ := written.1
    have named := (lexeme_stringText key).spells.append (Lexeme.colon.spells.append text)
    have longer := spells.append (Lexeme.comma.spells.append named)
    obtain ⟨tokens', all, complete⟩ := ih (begun.snoc key derived) longer written.2
    refine ⟨tokens', ?_, by simpa using complete⟩
    rw [moreFields, fieldsText_cons]
    simpa using all

theorem Textual.written {value : Json} (h : Textual depth value) : Written depth value := by
  induction h with
  | null => exact ⟨[.null], Lexeme.null.spells, .null⟩
  | bool b =>
    cases b with
    | true => exact ⟨_, Lexeme.yes.spells, .bool true⟩
    | false => exact ⟨_, Lexeme.no.spells, .bool false⟩
  | string s => exact ⟨_, (lexeme_stringText s).spells, .string s⟩
  | @array depth items room _ ih =>
    cases items with
    | nil => exact ⟨_, Lexeme.openArray.spells.append Lexeme.closeArray.spells, .emptyArray room⟩
    | cons item items =>
      rw [List.forall_mem_cons] at ih
      obtain ⟨first, text, derived⟩ := ih.1
      obtain ⟨tokens, spells, inside⟩ := exists_items (.single derived) text ih.2
      refine ⟨_, ?_, .array room inside⟩
      have closed := Lexeme.openArray.spells.append (spells.append Lexeme.closeArray.spells)
      simpa [Json.text, itemsText_cons] using closed
  | @object depth fields room distinct _ ih =>
    cases fields with
    | nil =>
      exact ⟨_, Lexeme.openObject.spells.append Lexeme.closeObject.spells, .emptyObject room⟩
    | cons field fields =>
      obtain ⟨key, value⟩ := field
      rw [List.forall_mem_cons] at ih
      obtain ⟨first, text, derived⟩ := ih.1
      have named := (lexeme_stringText key).spells.append (Lexeme.colon.spells.append text)
      obtain ⟨tokens, spells, inside⟩ := exists_members (.single key derived) named ih.2
      have whole := Value.object room inside
      rw [List.singleton_append, collect_of_nodup distinct] at whole
      refine ⟨_, ?_, whole⟩
      have closed := Lexeme.openObject.spells.append (spells.append Lexeme.closeObject.spells)
      simpa [Json.text, fieldsText_cons] using closed

/-- The compact form of a value is read back as that value. -/
theorem ofBytes?_bytes {value : Json} (h : Textual 0 value) :
    ofBytes? value.bytes = some value := by
  obtain ⟨tokens, spells, derived⟩ := h.written
  refine ofBytes?_eq_some_iff.mpr ⟨value.compact, tokens, rfl, ?_, derived⟩
  rw [compact, String.toList_ofList]
  exact spells

theorem Textual.denotes {value : Json} (h : Textual 0 value) : Denotes value.bytes value :=
  ofBytes?_eq_some_iff.mp (ofBytes?_bytes h)

end Printed

end SignedAdmission.Json
