import SignedAdmission.Json.Reader
import SignedAdmission.Proofs.Json.Printing

/-! Values that are read. Every number of theirs has the one form that numbers are printed from. -/
namespace SignedAdmission.Json

namespace Token

/-- Numbers are in canonical form. -/
def Canonical : Token → Prop
  | .number n => n.Canonical
  | _ => True

theorem canonical_float {significand : ℕ} {exponent : ℤ} {negative : Bool} {n : Number}
    (h : ((Binary64.ofDecimal significand exponent).bind fun x =>
      some (Number.float (if negative = true then x.neg else x))) = some n) : n.Canonical := by
  obtain ⟨x, read, same⟩ := Option.bind_eq_some_iff.mp h
  obtain rfl := Option.some.inj same
  have canonical := Binary64.canonical_ofDecimal read
  cases negative with
  | true => exact canonical.neg
  | false => exact canonical

theorem canonical_value? {numeral : Numeral} {n : Number} (h : numeral.value? = some n) :
    n.Canonical := by
  simp only [Numeral.value?, Option.bind_eq_bind] at h
  split at h
  case h_1 =>
    by_cases long : (!(gather 0 numeral.whole).2.isEmpty) = true
    · rw [if_pos long] at h
      exact canonical_float h
    rw [if_neg long] at h
    by_cases positive : (!numeral.negative) = true
    · rw [if_pos positive] at h
      obtain rfl := Option.some.inj h
      trivial
    rw [if_neg positive, ite_eq_iff] at h
    obtain ⟨-, h⟩ | ⟨-, h⟩ := h
    · exact canonical_float h
    · obtain rfl := Option.some.inj h
      trivial
  case h_2 => exact canonical_float h

theorem canonical_number? {cs rest : List Char} {n : Number} (h : number? cs = some (n, rest)) :
    n.Canonical := by
  simp only [number?, Option.bind_eq_bind] at h
  split at h
  case h_3 =>
    simp only [Option.bind_eq_some_iff, Option.pure_def, Option.some.injEq, Prod.mk.injEq] at h
    obtain ⟨_, -, _, -, _, -, number, value, rfl, -⟩ := h
    exact canonical_value? value
  all_goals simp at h

theorem canonical_next? {cs rest : List Char} {token : Token} (h : next? cs = some (token, rest)) :
    token.Canonical := by
  unfold next? at h
  split at h
  case h_11 =>
    obtain ⟨⟨n, rest'⟩, read, same⟩ := Option.map_eq_some_iff.mp h
    obtain ⟨rfl, -⟩ := Prod.mk.inj same
    exact canonical_number? read
  case h_10 =>
    obtain ⟨⟨cs, rest'⟩, -, same⟩ := Option.map_eq_some_iff.mp h
    obtain ⟨rfl, -⟩ := Prod.mk.inj same
    trivial
  all_goals
    obtain ⟨rfl, -⟩ := Prod.mk.inj (Option.some.inj h)
    trivial

theorem canonical_scanWith {fuel : ℕ} {cs : List Char} {tokens : List Token}
    (h : scanWith fuel cs = some tokens) : ∀ token ∈ tokens, token.Canonical := by
  induction fuel generalizing cs tokens with
  | zero =>
    cases cs with
    | nil =>
      obtain rfl := Option.some.inj h
      simp
    | cons c cs => simp [scanWith] at h
  | succ fuel ih =>
    cases cs with
    | nil =>
      obtain rfl := Option.some.inj h
      simp
    | cons c cs =>
      rw [scanWith] at h
      split at h
      case isTrue => exact ih h
      case isFalse =>
        simp only [Option.bind_eq_bind, Option.bind_eq_some_iff, Option.pure_def,
          Option.some.injEq] at h
        obtain ⟨⟨token, rest⟩, first, later, scanned, rfl⟩ := h
        exact List.forall_mem_cons.mpr ⟨canonical_next? first, ih scanned⟩

end Token

/-- Every value that an open container holds is in canonical form. -/
def Frame.Canonical : Frame → Prop
  | .array items => ∀ item ∈ items, item.Canonical
  | .object fields _ => ∀ field ∈ fields, field.2.Canonical

theorem canonical_setField {key : String} {value : Json} {fields : Fields}
    (hv : value.Canonical) (hf : ∀ field ∈ fields, field.2.Canonical) :
    ∀ field ∈ setField key value fields, field.2.Canonical := by
  induction fields with
  | nil => simpa [setField] using hv
  | cons field fields ih =>
    rw [List.forall_mem_cons] at hf
    rw [setField]
    split
    · exact List.forall_mem_cons.mpr ⟨hv, hf.2⟩
    · exact List.forall_mem_cons.mpr ⟨hf.1, ih hf.2⟩

namespace ReadState

/-- The values that are finished and those of all open containers. -/
def Canonical : ReadState → Prop
  | .value stack => ∀ frame ∈ stack, frame.Canonical
  | .firstItem stack => ∀ frame ∈ stack, frame.Canonical
  | .afterItem items stack =>
    (∀ item ∈ items, item.Canonical) ∧ ∀ frame ∈ stack, frame.Canonical
  | .nextKey fields _ stack =>
    (∀ field ∈ fields, field.2.Canonical) ∧ ∀ frame ∈ stack, frame.Canonical
  | .afterKey fields _ stack =>
    (∀ field ∈ fields, field.2.Canonical) ∧ ∀ frame ∈ stack, frame.Canonical
  | .afterField fields stack =>
    (∀ field ∈ fields, field.2.Canonical) ∧ ∀ frame ∈ stack, frame.Canonical
  | .finished result => result.Canonical

theorem canonical_complete {value : Json} {stack : List Frame} (hv : value.Canonical)
    (hs : ∀ frame ∈ stack, frame.Canonical) : (complete value stack).Canonical := by
  cases stack with
  | nil => exact hv
  | cons frame stack =>
    rw [List.forall_mem_cons] at hs
    cases frame with
    | array items => exact ⟨List.forall_mem_cons.mpr ⟨hv, hs.1⟩, hs.2⟩
    | object fields key => exact ⟨canonical_setField hv hs.1, hs.2⟩

theorem canonical_begin? {stack : List Frame} {token : Token} {after : ReadState}
    (hs : ∀ frame ∈ stack, frame.Canonical) (ht : token.Canonical)
    (h : begin? stack token = some after) : after.Canonical := by
  cases token with
  | null =>
    obtain rfl := Option.some.inj h
    exact canonical_complete .null hs
  | bool b =>
    obtain rfl := Option.some.inj h
    exact canonical_complete (.bool b) hs
  | number n =>
    obtain rfl := Option.some.inj h
    exact canonical_complete (.number ht) hs
  | string s =>
    obtain rfl := Option.some.inj h
    exact canonical_complete (.string s) hs
  | openArray =>
    obtain ⟨-, next⟩ := Option.ite_none_right_eq_some.mp h
    obtain rfl := Option.some.inj next
    exact hs
  | openObject =>
    obtain ⟨-, next⟩ := Option.ite_none_right_eq_some.mp h
    obtain rfl := Option.some.inj next
    exact ⟨by simp, hs⟩
  | closeArray | closeObject | colon | comma => simp [begin?] at h

/-- What one token does keeps all values in canonical form. -/
theorem canonical_step? {state after : ReadState} {token : Token} (hs : state.Canonical)
    (ht : token.Canonical) (h : state.step? token = some after) : after.Canonical := by
  unfold step? at h
  split at h
  case h_1 => exact canonical_begin? hs ht h
  case h_2 =>
    obtain rfl := Option.some.inj h
    exact canonical_complete (.array (by simp)) hs
  case h_3 => exact canonical_begin? (List.forall_mem_cons.mpr ⟨by simp [Frame.Canonical], hs⟩) ht h
  case h_4 =>
    obtain rfl := Option.some.inj h
    exact List.forall_mem_cons.mpr hs
  case h_5 =>
    obtain rfl := Option.some.inj h
    exact canonical_complete (.array (by simpa using hs.1)) hs.2
  case h_6 =>
    obtain rfl := Option.some.inj h
    exact hs
  case h_7 =>
    obtain rfl := Option.some.inj h
    exact canonical_complete (.object (by simp)) hs.2
  case h_8 =>
    obtain rfl := Option.some.inj h
    exact List.forall_mem_cons.mpr hs
  case h_9 =>
    obtain rfl := Option.some.inj h
    exact ⟨hs.1, hs.2⟩
  case h_10 =>
    obtain rfl := Option.some.inj h
    exact canonical_complete (.object hs.1) hs.2
  case h_11 => simp at h

/-- After any run of tokens all values are in canonical form. -/
theorem canonical_run {tokens : List Token} {state after : ReadState} (hs : state.Canonical)
    (ht : ∀ token ∈ tokens, token.Canonical) (h : tokens.foldlM step? state = some after) :
    after.Canonical := by
  induction tokens generalizing state with
  | nil => exact Option.some.inj h ▸ hs
  | cons token tokens ih =>
    rw [List.forall_mem_cons] at ht
    rw [List.foldlM_cons] at h
    obtain ⟨next, first, rest⟩ := Option.bind_eq_some_iff.mp h
    exact ih (canonical_step? hs ht.1 first) ht.2 rest

end ReadState

/-- Every value that is read is in canonical form. -/
theorem canonical_ofBytes? {bytes : List UInt8} {value : Json} (h : ofBytes? bytes = some value) :
    value.Canonical := by
  obtain ⟨text, -, parsed⟩ := Option.bind_eq_some_iff.mp h
  obtain ⟨tokens, scanned, built⟩ := Option.bind_eq_some_iff.mp parsed
  have all := Token.canonical_scanWith scanned
  rw [ofTokens?] at built
  split at built
  case h_1 finished run =>
    obtain rfl := Option.some.inj built
    exact ReadState.canonical_run (by simp [ReadState.Canonical]) all run
  case h_2 => simp at built

theorem ofBytes?_toUTF8 (text : String) : ofBytes? text.toUTF8.toList = parse? text.toList := by
  rw [ofBytes?, Utf8.fromUTF8?_toUTF8]
  rfl

end SignedAdmission.Json
