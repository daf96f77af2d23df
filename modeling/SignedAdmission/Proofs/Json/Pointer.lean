import SignedAdmission.Json.Pointer
import SignedAdmission.Proofs.Decimal.Digits
import SignedAdmission.Proofs.Text.Split

/-! Paths and the pointers that spell them. A pointer is read back as the path it was written for,
and an index has only one spelling. -/
namespace SignedAdmission.Json

section Pointers

theorem slashes_escapeStep (cs : List Char) :
    unescapeStep.slashes (escapeStep cs) =
      cs.flatMap fun c => if c = '~' then ['~', '0'] else [c] := by
  induction cs with
  | nil => rfl
  | cons c cs ih =>
    simp only [escapeStep, List.flatMap_cons] at ih ⊢
    by_cases tilde : c = '~'
    · simp [tilde, unescapeStep.slashes, ih]
    · by_cases slash : c = '/'
      · simp [slash, unescapeStep.slashes, ih]
      · simp [tilde, slash, unescapeStep.slashes, ih]

theorem tildes_flatMap (cs : List Char) :
    unescapeStep.tildes (cs.flatMap fun c => if c = '~' then ['~', '0'] else [c]) = cs := by
  induction cs with
  | nil => rfl
  | cons c cs ih =>
    rw [List.flatMap_cons]
    by_cases tilde : c = '~' <;> simp [tilde, unescapeStep.tildes, ih]

theorem unescapeStep_escapeStep (cs : List Char) : unescapeStep (escapeStep cs) = cs := by
  rw [unescapeStep, slashes_escapeStep, tildes_flatMap]

theorem slash_not_mem_escapeStep (cs : List Char) : '/' ∉ escapeStep cs := by
  rw [escapeStep, List.mem_flatMap]
  rintro ⟨c, -, inside⟩
  by_cases tilde : c = '~'
  · simp [tilde] at inside
  · by_cases slash : c = '/'
    · simp [slash] at inside
    · simp [tilde, slash, eq_comm] at inside

/-- The escaped steps of a path are the pieces between the slashes of its pointer. -/
theorem split_escapeStep (step : List Char) (path : List String) :
    Text.split '/' (escapeStep step ++ path.flatMap fun step => '/' :: escapeStep step.toList) =
      escapeStep step :: path.map fun step => escapeStep step.toList := by
  induction path generalizing step with
  | nil => simp [Text.split_of_not_mem (slash_not_mem_escapeStep step)]
  | cons next path ih =>
    rw [List.flatMap_cons, List.cons_append, Text.split_append (slash_not_mem_escapeStep step), ih,
      List.map_cons]

@[simp]
theorem steps?_pointerText (path : List String) : steps? (pointerText path) = some path := by
  rw [steps?, pointerText, String.toList_ofList]
  cases path with
  | nil => rfl
  | cons step path => simp [split_escapeStep, unescapeStep_escapeStep, Function.comp_def]

theorem pointerText_injective {path other : List String}
    (h : pointerText path = pointerText other) : path = other := by
  have same := congrArg steps? h
  simpa only [steps?_pointerText, Option.some.injEq] using same

theorem pointer?_pointerText (path : List String) (value : Json) :
    pointer? (pointerText path) value = value.at? path := by
  rw [pointer?, steps?_pointerText]
  rfl

end Pointers

/-- An index is spelled the way its number is printed, and in no other way. -/
theorem index?_eq_some {step : String} {n : Nat} : index? step = some n ↔ step = toString n := by
  have value (cs : List Char) : cs.foldl (fun n c => 10 * n + (c.toNat - '0'.toNat)) 0 =
      Nat.ofDigitChars 10 cs 0 := Nat.ofDigitChars_eq_foldl.symm
  rw [← String.toList_inj, Nat.toString_eq_ofList_toDigits, String.toList_ofList]
  simp only [index?, value]
  generalize step.toList = cs
  constructor
  · intro h
    cases cs with
    | nil => simp at h
    | cons c cs =>
      simp only [List.isEmpty_cons, Bool.false_or, List.head?_cons, Option.ite_none_left_eq_some,
        Option.some.injEq] at h
      obtain ⟨valid, rfl⟩ := h
      simp only [Bool.or_eq_true, Bool.not_eq_true', Bool.and_eq_true, beq_iff_eq, bne_iff_ne,
        not_or, Bool.not_eq_false, List.all_eq_true, not_and, not_not, Option.some.injEq,
        List.length_cons, Nat.add_eq_right, List.length_eq_zero_iff] at valid
      exact (Decimal.toDigits_ofDigitChars valid.1 valid.2).symm
  · rintro rfl
    have canonical : (Nat.toDigits 10 n).head? = some '0' → (Nat.toDigits 10 n).length = 1 := by
      intro zero
      obtain rfl : n = 0 :=
        Nat.eq_zero_of_not_pos fun positive => Decimal.head?_toDigits positive zero
      rfl
    rw [Nat.ofDigitChars_ten_toDigits, if_neg]
    simpa [Nat.toDigits_ne_nil] using ⟨Decimal.isDigit_of_mem_toDigits, canonical⟩

section Paths

variable {path more : List String} {value : Json}

@[simp]
theorem at?_nil (value : Json) : value.at? [] = some value := rfl

theorem at?_cons (step : String) (path : List String) (value : Json) :
    value.at? (step :: path) = (value.child? step).bind (at? path) := rfl

/-- A path is followed part by part. -/
theorem at?_append (path more : List String) (value : Json) :
    value.at? (path ++ more) = (value.at? path).bind (at? more) := by
  induction path generalizing value with
  | nil => rfl
  | cons step path ih =>
    rw [List.cons_append, at?_cons, at?_cons, Option.bind_assoc]
    exact congrArg _ (funext ih)

end Paths

end SignedAdmission.Json
