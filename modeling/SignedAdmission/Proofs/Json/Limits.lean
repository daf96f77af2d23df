import SignedAdmission.Proofs.Json.RoundTrip

/-! JSON text, and how much of it is read. The grammar of texts is stated with limits on numbers, on
strings and on nesting. Without limits it is the grammar of all JSON text, and with those of the
reader it is the grammar of the texts that denote a value. -/
namespace SignedAdmission.Json

namespace Grammar

/-- What a token is, apart from its value. -/
inductive Kind where
  | openArray
  | closeArray
  | openObject
  | closeObject
  | colon
  | comma
  | scalar
  | string

/-- What is allowed for the numbers of a text, between the quotes of its strings, and for the number
of containers that another one lies inside. -/
structure Limits where
  number : Token.Numeral → Prop
  string : List Char → Prop
  depth : ℕ → Prop

def Limits.unlimited : Limits := ⟨fun _ => True, fun _ => True, fun _ => True⟩

/-- Numbers have a value, surrogates come in pairs, and at most 127 containers lie inside each
other. -/
def Limits.reader : Limits where
  number numeral := ∃ n, numeral.value? = some n
  string spelled := ∃ cs, Quoted spelled cs
  depth := (· < ReadState.maxDepth)

/-- What may stand between the quotes of a string, where any code unit may be written by its
digits. -/
inductive Inscribed : List Char → Prop
  | nil : Inscribed []
  | plain {c spelled} (quote : c ≠ '"') (backslash : c ≠ '\\') (printed : ¬ c.toNat < 0x20)
    (rest : Inscribed spelled) : Inscribed (c :: spelled)
  | escaped {letter c spelled} (named : Token.escaped? letter = some c)
    (rest : Inscribed spelled) : Inscribed ('\\' :: letter :: spelled)
  | unit {a b c d unit spelled} (value : Token.hex4? a b c d = some unit)
    (rest : Inscribed spelled) : Inscribed ('\\' :: 'u' :: a :: b :: c :: d :: spelled)

/-- How a token of a kind is written. -/
inductive Word (limits : Limits) : List Char → Kind → Prop
  | openArray : Word limits ['['] .openArray
  | closeArray : Word limits [']'] .closeArray
  | openObject : Word limits ['\x7b'] .openObject
  | closeObject : Word limits ['\x7d'] .closeObject
  | colon : Word limits [':'] .colon
  | comma : Word limits [','] .comma
  | null : Word limits ['n', 'u', 'l', 'l'] .scalar
  | yes : Word limits ['t', 'r', 'u', 'e'] .scalar
  | no : Word limits ['f', 'a', 'l', 's', 'e'] .scalar
  | string {spelled} (inscribed : Inscribed spelled) (allowed : limits.string spelled) :
    Word limits ('"' :: (spelled ++ ['"'])) .string
  | number {text numeral} (signed : Signed text numeral) (allowed : limits.number numeral) :
    Word limits text .scalar

/-- Tokens one after the other, with any number of blanks before, between and after them. -/
inductive Words (limits : Limits) : List Char → List Kind → Prop
  | nil : Words limits [] []
  | blank {c cs kinds} (blank : Token.isBlank c = true) (rest : Words limits cs kinds) :
    Words limits (c :: cs) kinds
  | cons {text kind cs kinds} (first : Word limits text kind) (rest : Words limits cs kinds) :
    Words limits (text ++ cs) (kind :: kinds)

mutual

/-- The kinds of the tokens of a value that lies inside `depth` containers. -/
inductive Shape (limits : Limits) : ℕ → List Kind → Prop
  | scalar {depth} : Shape limits depth [.scalar]
  | string {depth} : Shape limits depth [.string]
  | emptyArray {depth} (room : limits.depth depth) :
    Shape limits depth [.openArray, .closeArray]
  | array {depth kinds} (room : limits.depth depth) (inside : ItemsShape limits (depth + 1) kinds) :
    Shape limits depth (.openArray :: (kinds ++ [.closeArray]))
  | emptyObject {depth} (room : limits.depth depth) :
    Shape limits depth [.openObject, .closeObject]
  | object {depth kinds} (room : limits.depth depth)
    (inside : MembersShape limits (depth + 1) kinds) :
    Shape limits depth (.openObject :: (kinds ++ [.closeObject]))

/-- Values with commas between them, at least one. -/
inductive ItemsShape (limits : Limits) : ℕ → List Kind → Prop
  | single {depth kinds} (only : Shape limits depth kinds) : ItemsShape limits depth kinds
  | snoc {depth before kinds} (front : ItemsShape limits depth before)
    (last : Shape limits depth kinds) : ItemsShape limits depth (before ++ .comma :: kinds)

/-- Keys with values, with commas between them, at least one. -/
inductive MembersShape (limits : Limits) : ℕ → List Kind → Prop
  | single {depth kinds} (only : Shape limits depth kinds) :
    MembersShape limits depth (.string :: .colon :: kinds)
  | snoc {depth before kinds} (front : MembersShape limits depth before)
    (last : Shape limits depth kinds) :
    MembersShape limits depth (before ++ .comma :: .string :: .colon :: kinds)

end

end Grammar

open Grammar

/-- The bytes are JSON text within limits. -/
def IsTextWithin (limits : Limits) (body : List UInt8) : Prop :=
  ∃ (text : String) (kinds : List Kind), body = text.toUTF8.toList ∧
    Words limits text.toList kinds ∧ Shape limits 0 kinds

/-- The bytes are JSON text. -/
def IsText (body : List UInt8) : Prop :=
  IsTextWithin .unlimited body

theorem inscribed_of_plain {spelled : List Char}
    (plain : ∀ c ∈ spelled, c ≠ '"' ∧ c ≠ '\\' ∧ ¬ c.toNat < 0x20) : Inscribed spelled := by
  induction spelled with
  | nil => exact .nil
  | cons c spelled ih =>
    obtain ⟨⟨quote, backslash, printed⟩, rest⟩ := List.forall_mem_cons.mp plain
    exact .plain quote backslash printed (ih rest)

section Unlimited

variable {limits : Limits} {text cs : List Char} {kind : Kind} {kinds : List Kind} {depth : ℕ}
  {body : List UInt8}

theorem Grammar.Word.unlimited (h : Word limits text kind) : Word .unlimited text kind := by
  cases h with
  | string inscribed => exact .string inscribed trivial
  | number signed => exact .number signed trivial
  | _ => constructor

theorem Grammar.Words.unlimited (h : Words limits cs kinds) : Words .unlimited cs kinds := by
  induction h with
  | nil => exact .nil
  | blank blank _ ih => exact .blank blank ih
  | cons first _ ih => exact .cons first.unlimited ih

theorem Grammar.Shape.unlimited (h : Shape limits depth kinds) : Shape .unlimited depth kinds := by
  refine @Shape.rec limits
    (fun depth kinds _ => Shape .unlimited depth kinds)
    (fun depth kinds _ => ItemsShape .unlimited depth kinds)
    (fun depth kinds _ => MembersShape .unlimited depth kinds)
    ?scalar ?string ?emptyArray ?array ?emptyObject ?object ?item ?items ?member ?members _ _ h
  case scalar => exact .scalar
  case string => exact .string
  case emptyArray => exact fun _ => .emptyArray trivial
  case array => exact fun _ _ inside => .array trivial inside
  case emptyObject => exact fun _ => .emptyObject trivial
  case object => exact fun _ _ inside => .object trivial inside
  case item => exact fun _ only => .single only
  case items => exact fun _ _ front last => .snoc front last
  case member => exact fun _ only => .single only
  case members => exact fun _ _ front last => .snoc front last

theorem IsTextWithin.isText (h : IsTextWithin limits body) : IsText body := by
  obtain ⟨text, kinds, encoded, words, shape⟩ := h
  exact ⟨text, kinds, encoded, words.unlimited, shape.unlimited⟩

end Unlimited

namespace Token

def kind : Token → Kind
  | .openArray => .openArray
  | .closeArray => .closeArray
  | .openObject => .openObject
  | .closeObject => .closeObject
  | .colon => .colon
  | .comma => .comma
  | .null | .bool _ | .number _ => .scalar
  | .string _ => .string

theorem kind_eq_iff {token : Token} {kind : Kind} : token.kind = kind ↔
    match kind with
    | .openArray => token = .openArray
    | .closeArray => token = .closeArray
    | .openObject => token = .openObject
    | .closeObject => token = .closeObject
    | .colon => token = .colon
    | .comma => token = .comma
    | .scalar => token = .null ∨ (∃ b, token = .bool b) ∨ ∃ n, token = .number n
    | .string => ∃ s, token = .string s := by
  cases kind <;> cases token <;> simp [Token.kind]

end Token

section Reader

variable {spelled text cs : List Char} {token : Token} {tokens : List Token} {kind : Kind}
  {kinds : List Kind} {depth : ℕ} {value : Json} {body : List UInt8}

theorem Grammar.Quoted.inscribed (h : Quoted spelled cs) : Inscribed spelled := by
  induction h with
  | nil => exact .nil
  | plain quote backslash printed _ ih => exact .plain quote backslash printed ih
  | escaped named _ ih => exact .escaped named ih
  | unit value _ _ ih => exact .unit value ih
  | pair first _ second _ _ ih => exact .unit first (.unit second ih)

theorem Grammar.Lexeme.word (h : Lexeme text token) : Word .reader text token.kind := by
  cases h with
  | string quoted => exact .string quoted.inscribed ⟨_, quoted⟩
  | number signed value => exact .number signed ⟨_, value⟩
  | _ => constructor

theorem Grammar.Word.exists_lexeme (h : Word .reader text kind) :
    ∃ token, token.kind = kind ∧ Lexeme text token := by
  cases h with
  | string _ allowed =>
    obtain ⟨cs, quoted⟩ := allowed
    exact ⟨_, rfl, .string quoted⟩
  | number signed allowed =>
    obtain ⟨n, value⟩ := allowed
    exact ⟨_, rfl, .number signed value⟩
  | null => exact ⟨_, rfl, .null⟩
  | yes => exact ⟨_, rfl, .yes⟩
  | no => exact ⟨_, rfl, .no⟩
  | _ => exact ⟨_, rfl, by constructor⟩

theorem words_iff_spells :
    Words .reader cs kinds ↔ ∃ tokens, tokens.map Token.kind = kinds ∧ Spells cs tokens := by
  constructor
  · intro h
    induction h with
    | nil => exact ⟨[], rfl, .nil⟩
    | blank blank _ ih =>
      obtain ⟨tokens, same, spells⟩ := ih
      exact ⟨tokens, same, .blank blank spells⟩
    | cons first _ ih =>
      obtain ⟨token, rfl, lexeme⟩ := first.exists_lexeme
      obtain ⟨tokens, rfl, spells⟩ := ih
      exact ⟨token :: tokens, rfl, .cons lexeme spells⟩
  · rintro ⟨tokens, rfl, spells⟩
    induction spells with
    | nil => exact .nil
    | blank blank _ ih => exact .blank blank ih
    | cons first _ ih => exact .cons first.word ih

theorem Grammar.Value.shape (h : Value depth tokens value) :
    Shape .reader depth (tokens.map Token.kind) := by
  refine @Value.rec
    (fun depth tokens _ _ => Shape .reader depth (tokens.map Token.kind))
    (fun depth tokens _ _ => ItemsShape .reader depth (tokens.map Token.kind))
    (fun depth tokens _ _ => MembersShape .reader depth (tokens.map Token.kind))
    ?null ?bool ?number ?string ?emptyArray ?array ?emptyObject ?object ?item ?items ?member
    ?members _ _ _ h
  case null | bool | number =>
    intros
    exact .scalar
  case string =>
    intros
    exact .string
  case emptyArray => exact fun room => .emptyArray room
  case emptyObject => exact fun room => .emptyObject room
  case array =>
    intro depth tokens items room _ inside
    simpa [Token.kind] using Shape.array room inside
  case object =>
    intro depth tokens members room _ inside
    simpa [Token.kind] using Shape.object room inside
  case item => exact fun _ only => .single only
  case items =>
    intro depth before items tokens value _ _ front last
    simpa [Token.kind] using ItemsShape.snoc front last
  case member =>
    intro depth tokens value key _ only
    exact .single only
  case members =>
    intro depth before members tokens value _ key _ front last
    simpa [Token.kind] using MembersShape.snoc front last

theorem Grammar.Shape.exists_value (h : Shape .reader depth kinds) :
    ∀ tokens, tokens.map Token.kind = kinds → ∃ value, Value depth tokens value := by
  refine @Shape.rec .reader
    (fun depth kinds _ => ∀ tokens, tokens.map Token.kind = kinds →
      ∃ value, Value depth tokens value)
    (fun depth kinds _ => ∀ tokens, tokens.map Token.kind = kinds →
      ∃ items, Items depth tokens items)
    (fun depth kinds _ => ∀ tokens, tokens.map Token.kind = kinds →
      ∃ members, Members depth tokens members)
    ?scalar ?string ?emptyArray ?array ?emptyObject ?object ?item ?items ?member ?members _ _ h
  case scalar =>
    intro depth tokens same
    obtain ⟨token, rfl, scalar⟩ := List.map_eq_singleton_iff.mp same
    obtain rfl | ⟨b, rfl⟩ | ⟨n, rfl⟩ := Token.kind_eq_iff.mp scalar
    · exact ⟨_, .null⟩
    · exact ⟨_, .bool b⟩
    · exact ⟨_, .number n⟩
  case string =>
    intro depth tokens same
    obtain ⟨token, rfl, string⟩ := List.map_eq_singleton_iff.mp same
    obtain ⟨s, rfl⟩ := Token.kind_eq_iff.mp string
    exact ⟨_, .string s⟩
  case emptyArray =>
    intro depth room tokens same
    simp only [List.map_eq_cons_iff, List.map_eq_nil_iff, Token.kind_eq_iff] at same
    obtain ⟨_, _, rfl, rfl, _, _, rfl, rfl, rfl⟩ := same
    exact ⟨_, .emptyArray room⟩
  case emptyObject =>
    intro depth room tokens same
    simp only [List.map_eq_cons_iff, List.map_eq_nil_iff, Token.kind_eq_iff] at same
    obtain ⟨_, _, rfl, rfl, _, _, rfl, rfl, rfl⟩ := same
    exact ⟨_, .emptyObject room⟩
  case array =>
    intro depth kinds room _ ih tokens same
    simp only [List.map_eq_cons_iff, List.map_eq_append_iff, List.map_eq_nil_iff,
      Token.kind_eq_iff] at same
    obtain ⟨_, _, rfl, rfl, inner, _, rfl, rfl, _, _, rfl, rfl, rfl⟩ := same
    obtain ⟨items, inside⟩ := ih inner rfl
    exact ⟨_, .array room inside⟩
  case object =>
    intro depth kinds room _ ih tokens same
    simp only [List.map_eq_cons_iff, List.map_eq_append_iff, List.map_eq_nil_iff,
      Token.kind_eq_iff] at same
    obtain ⟨_, _, rfl, rfl, inner, _, rfl, rfl, _, _, rfl, rfl, rfl⟩ := same
    obtain ⟨members, inside⟩ := ih inner rfl
    exact ⟨_, .object room inside⟩
  case item =>
    intro depth kinds _ ih tokens same
    obtain ⟨value, only⟩ := ih tokens same
    exact ⟨_, .single only⟩
  case items =>
    intro depth before kinds _ _ front_ih last_ih tokens same
    simp only [List.map_eq_append_iff, List.map_eq_cons_iff, Token.kind_eq_iff] at same
    obtain ⟨front, _, rfl, rfl, _, last, rfl, rfl, rfl⟩ := same
    obtain ⟨items, read⟩ := front_ih front rfl
    obtain ⟨value, read_last⟩ := last_ih last rfl
    exact ⟨_, .snoc read read_last⟩
  case member =>
    intro depth kinds _ ih tokens same
    simp only [List.map_eq_cons_iff, Token.kind_eq_iff] at same
    obtain ⟨_, _, rfl, ⟨key, rfl⟩, _, rest, rfl, rfl, rfl⟩ := same
    obtain ⟨value, only⟩ := ih rest rfl
    exact ⟨_, .single key only⟩
  case members =>
    intro depth before kinds _ _ front_ih last_ih tokens same
    simp only [List.map_eq_append_iff, List.map_eq_cons_iff, Token.kind_eq_iff] at same
    obtain ⟨front, _, rfl, rfl, _, _, rfl, rfl, _, _, rfl, ⟨key, rfl⟩, _, last, rfl, rfl, rfl⟩ :=
      same
    obtain ⟨members, read⟩ := front_ih front rfl
    obtain ⟨value, read_last⟩ := last_ih last rfl
    exact ⟨_, .snoc read key read_last⟩

/-- The texts that denote a value are the JSON texts within the limits of the reader. -/
theorem exists_denotes_iff : (∃ value, Denotes body value) ↔ IsTextWithin .reader body := by
  constructor
  · rintro ⟨value, text, tokens, encoded, spells, derived⟩
    exact ⟨text, tokens.map Token.kind, encoded, words_iff_spells.mpr ⟨tokens, rfl, spells⟩,
      derived.shape⟩
  · rintro ⟨text, kinds, encoded, words, shape⟩
    obtain ⟨tokens, rfl, spells⟩ := words_iff_spells.mp words
    obtain ⟨value, derived⟩ := shape.exists_value tokens rfl
    exact ⟨value, text, tokens, encoded, spells, derived⟩

end Reader

end SignedAdmission.Json
