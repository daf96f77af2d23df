import Mathlib.Data.List.Basic
import SignedAdmission.Json.Reader

/-! The grammar of JSON values on tokens, independent of how tokens are read. The machine that reads
them finishes with a value exactly if the grammar derives that value. -/
namespace SignedAdmission.Json

open ReadState (maxDepth)

namespace Grammar

/-- The fields of an object that is written with these, where the last of one name counts. -/
def collect (members : Fields) : Fields :=
  members.foldl (fun fields member => setField member.1 member.2 fields) []

mutual

/-- The tokens of a value that lies inside `depth` containers. -/
inductive Value : ℕ → List Token → Json → Prop
  | null {depth} : Value depth [.null] .null
  | bool {depth} (b : Bool) : Value depth [.bool b] (.bool b)
  | number {depth} (n : Number) : Value depth [.number n] (.number n)
  | string {depth} (s : String) : Value depth [.string s] (.string s)
  | emptyArray {depth} (room : depth < maxDepth) :
    Value depth [.openArray, .closeArray] (.array [])
  | array {depth tokens items} (room : depth < maxDepth)
    (inside : Items (depth + 1) tokens items) :
    Value depth (.openArray :: (tokens ++ [.closeArray])) (.array items)
  | emptyObject {depth} (room : depth < maxDepth) :
    Value depth [.openObject, .closeObject] (.object [])
  | object {depth tokens members} (room : depth < maxDepth)
    (inside : Members (depth + 1) tokens members) :
    Value depth (.openObject :: (tokens ++ [.closeObject])) (.object (collect members))

/-- Values with commas between them, at least one. -/
inductive Items : ℕ → List Token → List Json → Prop
  | single {depth tokens value} (only : Value depth tokens value) : Items depth tokens [value]
  | snoc {depth before items tokens value} (front : Items depth before items)
    (last : Value depth tokens value) : Items depth (before ++ .comma :: tokens) (items ++ [value])

/-- Keys with values, with commas between them, at least one. -/
inductive Members : ℕ → List Token → Fields → Prop
  | single {depth tokens value} (key : String) (only : Value depth tokens value) :
    Members depth (.string key :: .colon :: tokens) [(key, value)]
  | snoc {depth before members tokens value} (front : Members depth before members) (key : String)
    (last : Value depth tokens value) :
    Members depth (before ++ .comma :: .string key :: .colon :: tokens)
      (members ++ [(key, value)])

end

@[simp]
theorem collect_append (members : Fields) (key : String) (value : Json) :
    collect (members ++ [(key, value)]) = setField key value (collect members) := by
  rw [collect, List.foldl_append, List.foldl_cons, List.foldl_nil, collect]

end Grammar

open Grammar

section Completeness

open ReadState

variable {state middle after : ReadState} {token : Token} {tokens before : List Token}
  {stack : List Frame} {depth : ℕ}

/-- The machine comes from one state to another on tokens. -/
def Leads (state : ReadState) (tokens : List Token) (after : ReadState) : Prop :=
  tokens.foldlM step? state = some after

theorem Leads.one (step : state.step? token = some after) : Leads state [token] after := by
  rw [Leads, List.foldlM_cons, step]
  rfl

theorem Leads.cons (step : state.step? token = some middle) (rest : Leads middle tokens after) :
    Leads state (token :: tokens) after := by
  rw [Leads, List.foldlM_cons, step]
  exact rest

theorem Leads.append (front : Leads state before middle) (rest : Leads middle tokens after) :
    Leads state (before ++ tokens) after := by
  rw [Leads, List.foldlM_append, front]
  exact rest

theorem step?_openArray (room : stack.length < maxDepth) :
    step? (.value stack) .openArray = some (.firstItem stack) := by
  rw [step?, begin?, if_pos room]

theorem step?_openObject (room : stack.length < maxDepth) :
    step? (.value stack) .openObject = some (.nextKey [] true stack) := by
  rw [step?, begin?, if_pos room]

/-- The first item of an array is read as any other is. -/
theorem Grammar.Value.leads_firstItem {value : Json} (h : Value depth tokens value)
    (read : Leads (.value (.array [] :: stack)) tokens after) :
    Leads (.firstItem stack) tokens after := by
  cases h <;> exact read

/-- What the machine does with the tokens of a value, of items and of members. -/
theorem Grammar.Value.leads {value : Json} (h : Value depth tokens value) :
    ∀ stack : List Frame, stack.length = depth →
      Leads (.value stack) tokens (complete value stack) := by
  refine @Value.rec
    (fun depth tokens value _ => ∀ stack : List Frame, stack.length = depth →
      Leads (.value stack) tokens (complete value stack))
    (fun depth tokens items _ => ∀ stack : List Frame, stack.length + 1 = depth →
      Leads (.firstItem stack) tokens (.afterItem items.reverse stack))
    (fun depth tokens members _ => ∀ stack : List Frame, stack.length + 1 = depth →
      Leads (.nextKey [] true stack) tokens (.afterField (collect members) stack))
    ?null ?bool ?number ?string ?emptyArray ?array ?emptyObject ?object ?item ?items ?member
    ?members _ _ _ h
  case null | bool | number | string =>
    intros
    exact .one rfl
  case emptyArray =>
    rintro depth room stack rfl
    exact .cons (step?_openArray room) (.one rfl)
  case emptyObject =>
    rintro depth room stack rfl
    exact .cons (step?_openObject room) (.one rfl)
  case array =>
    rintro depth tokens items room - inside stack rfl
    have closed : step? (.afterItem items.reverse stack) .closeArray =
        some (complete (.array items) stack) := by
      rw [step?, List.reverse_reverse]
    exact .cons (step?_openArray room) ((inside stack rfl).append (.one closed))
  case object =>
    rintro depth tokens members room - inside stack rfl
    exact .cons (step?_openObject room) ((inside stack rfl).append (.one rfl))
  case item =>
    intro depth tokens value only read stack within
    exact only.leads_firstItem (read (.array [] :: stack) within)
  case items =>
    intro depth before items tokens value front last front_read last_read stack within
    rw [List.reverse_append]
    exact (front_read stack within).append
      (.cons rfl (last_read (.array items.reverse :: stack) within))
  case member =>
    intro depth tokens value key only read stack within
    exact .cons rfl (.cons rfl (read (.object [] key :: stack) within))
  case members =>
    intro depth before members tokens value front key last front_read last_read stack within
    have read := last_read (.object (collect members) key :: stack) within
    rw [collect_append]
    exact (front_read stack within).append (.cons rfl (.cons rfl (.cons rfl read)))

end Completeness

section Soundness

open ReadState

namespace Grammar

variable {depth : ℕ} {before tokens : List Token}

/-- The items of an array as far as they have been read when the next one is due. -/
inductive Items.Begun (depth : ℕ) : List Token → List Json → Prop
  | none : Begun depth [] []
  | some {tokens items} (front : Items depth tokens items) :
    Begun depth (tokens ++ [.comma]) items

theorem Items.Begun.value {items : List Json} {value : Json} (h : Begun depth before items)
    (last : Value depth tokens value) : Items depth (before ++ tokens) (items ++ [value]) := by
  cases h with
  | none => exact .single last
  | some front =>
    rw [List.append_assoc, List.singleton_append]
    exact front.snoc last

/-- The members of an object as far as they have been read when the next key is due, and whether
there are none yet. -/
inductive Members.Begun (depth : ℕ) : Bool → List Token → Fields → Prop
  | none : Begun depth true [] []
  | some {tokens members} (front : Members depth tokens members) :
    Begun depth false (tokens ++ [.comma]) members

theorem Members.Begun.value {empty : Bool} {members : Fields} {value : Json}
    (h : Begun depth empty before members) (key : String) (last : Value depth tokens value) :
    Members depth (before ++ .string key :: .colon :: tokens) (members ++ [(key, value)]) := by
  cases h with
  | none => exact .single key last
  | some front =>
    rw [List.append_assoc, List.singleton_append]
    exact front.snoc key last

end Grammar

/-- What has been read when a value is due inside open containers. -/
inductive Opened : List Token → List Frame → Prop
  | none : Opened [] []
  | array {before stack tokens items} (outer : Opened before stack)
    (room : stack.length < maxDepth) (begun : Items.Begun (stack.length + 1) tokens items) :
    Opened (before ++ .openArray :: tokens) (.array items.reverse :: stack)
  | object {before stack empty tokens members} (outer : Opened before stack)
    (room : stack.length < maxDepth)
    (begun : Members.Begun (stack.length + 1) empty tokens members) (key : String) :
    Opened (before ++ .openObject :: (tokens ++ [.string key, .colon]))
      (.object (collect members) key :: stack)

/-- What has been read when the machine is in a state. -/
inductive Reached : List Token → ReadState → Prop
  | value {before stack} (outer : Opened before stack) : Reached before (.value stack)
  | firstItem {before stack} (outer : Opened before stack) (room : stack.length < maxDepth) :
    Reached (before ++ [.openArray]) (.firstItem stack)
  | afterItem {before stack tokens items} (outer : Opened before stack)
    (room : stack.length < maxDepth) (front : Items (stack.length + 1) tokens items) :
    Reached (before ++ .openArray :: tokens) (.afterItem items.reverse stack)
  | nextKey {before stack empty tokens members} (outer : Opened before stack)
    (room : stack.length < maxDepth)
    (begun : Members.Begun (stack.length + 1) empty tokens members) :
    Reached (before ++ .openObject :: tokens) (.nextKey (collect members) empty stack)
  | afterKey {before stack empty tokens members} (outer : Opened before stack)
    (room : stack.length < maxDepth)
    (begun : Members.Begun (stack.length + 1) empty tokens members) (key : String) :
    Reached (before ++ .openObject :: (tokens ++ [.string key]))
      (.afterKey (collect members) key stack)
  | afterField {before stack tokens members} (outer : Opened before stack)
    (room : stack.length < maxDepth) (front : Members (stack.length + 1) tokens members) :
    Reached (before ++ .openObject :: tokens) (.afterField (collect members) stack)
  | finished {tokens value} (whole : Value 0 tokens value) : Reached tokens (.finished value)

variable {state after : ReadState} {token : Token} {before tokens : List Token}
  {stack : List Frame}

/-- A value goes to the innermost open container. -/
theorem Opened.complete {value : Json} (outer : Opened before stack)
    (read : Value stack.length tokens value) :
    Reached (before ++ tokens) (ReadState.complete value stack) := by
  cases outer with
  | none => exact .finished read
  | @array before stack front items outer room begun =>
    have items := begun.value read
    have reached := Reached.afterItem outer room items
    simpa [ReadState.complete] using reached
  | @object before stack empty front members outer room begun key =>
    have members := begun.value key read
    have reached := Reached.afterField outer room members
    simpa [ReadState.complete] using reached

theorem Opened.begin (outer : Opened before stack) (step : begin? stack token = some after) :
    Reached (before ++ [token]) after := by
  cases token with
  | null =>
    obtain rfl := Option.some.inj step
    exact outer.complete .null
  | bool b =>
    obtain rfl := Option.some.inj step
    exact outer.complete (.bool b)
  | number n =>
    obtain rfl := Option.some.inj step
    exact outer.complete (.number n)
  | string s =>
    obtain rfl := Option.some.inj step
    exact outer.complete (.string s)
  | openArray =>
    obtain ⟨room, next⟩ := Option.ite_none_right_eq_some.mp step
    obtain rfl := Option.some.inj next
    exact .firstItem outer room
  | openObject =>
    obtain ⟨room, next⟩ := Option.ite_none_right_eq_some.mp step
    obtain rfl := Option.some.inj next
    exact .nextKey outer room .none
  | closeArray | closeObject | colon | comma => simp [begin?] at step

/-- What one more token does. -/
theorem Reached.next (h : Reached before state) (step : state.step? token = some after) :
    Reached (before ++ [token]) after := by
  unfold step? at step
  split at step
  case h_1 =>
    cases h with
    | value outer => exact outer.begin step
  case h_2 =>
    obtain rfl := Option.some.inj step
    cases h with
    | firstItem outer room =>
      have reached := outer.complete (.emptyArray room)
      simpa using reached
  case h_3 =>
    cases h with
    | firstItem outer room =>
      have inner := Opened.array outer room .none
      exact inner.begin step
  case h_4 =>
    obtain rfl := Option.some.inj step
    cases h with
    | afterItem outer room front =>
      have inner := Opened.array outer room (.some front)
      simpa using Reached.value inner
  case h_5 =>
    obtain rfl := Option.some.inj step
    cases h with
    | afterItem outer room front =>
      have reached := outer.complete (.array room front)
      simpa using reached
  case h_6 =>
    obtain rfl := Option.some.inj step
    cases h with
    | nextKey outer room begun =>
      have reached := Reached.afterKey outer room begun
      simpa using reached _
  case h_7 =>
    obtain rfl := Option.some.inj step
    cases h with
    | nextKey outer room begun =>
      cases begun with
      | none =>
        have reached := outer.complete (.emptyObject room)
        simpa using reached
  case h_8 =>
    obtain rfl := Option.some.inj step
    cases h with
    | afterKey outer room begun =>
      have inner := Opened.object outer room begun
      simpa using Reached.value (inner _)
  case h_9 =>
    obtain rfl := Option.some.inj step
    cases h with
    | afterField outer room front =>
      have reached := Reached.nextKey outer room (.some front)
      simpa using reached
  case h_10 =>
    obtain rfl := Option.some.inj step
    cases h with
    | afterField outer room front =>
      have reached := outer.complete (.object room front)
      simpa using reached
  case h_11 => simp at step

/-- What a run of tokens does. -/
theorem Reached.run (h : Reached before state) (run : Leads state tokens after) :
    Reached (before ++ tokens) after := by
  induction tokens generalizing state before with
  | nil =>
    obtain rfl := Option.some.inj run
    simpa using h
  | cons token tokens ih =>
    rw [Leads, List.foldlM_cons] at run
    obtain ⟨middle, first, rest⟩ := Option.bind_eq_some_iff.mp run
    simpa using ih (h.next first) rest

end Soundness

/-- The machine reads a value exactly if the grammar derives it. -/
theorem ofTokens?_eq_some_iff {tokens : List Token} {value : Json} :
    ofTokens? tokens = some value ↔ Value 0 tokens value := by
  constructor
  · intro read
    rw [ofTokens?] at read
    split at read
    case h_1 finished run =>
      obtain rfl := Option.some.inj read
      have reached : Reached ([] ++ tokens) (.finished finished) :=
        Reached.run (.value .none) run
      rw [List.nil_append] at reached
      cases reached with
      | finished whole => exact whole
    case h_2 => simp at read
  · intro derived
    have run : Leads (.value []) tokens (.finished value) := derived.leads [] rfl
    rw [ofTokens?, run]

end SignedAdmission.Json
