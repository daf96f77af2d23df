import SignedAdmission.Admission.Review
import SignedAdmission.Proofs.Bytes.RoundTrip
import SignedAdmission.Proofs.Json.Limits

/-! Answers to reviews. Every body that is JSON text within the limits of the reader gets an answer
that follows from the verdict on it: an admission carries exactly the patches that are asked for, and
a denial carries none, so that an answer without warnings allows only what is admitted. JSON text
beyond those limits gets no answer. -/
namespace SignedAdmission

namespace Patch

/-- The patches that a text stands for: a JSON array of them in base64. -/
def ofText? (text : String) : Option (List Patch) := do
  let bytes ← Base64.decode? text.toList
  let items ← (← Json.ofBytes? bytes).array?
  items.mapM fun item => (decode item).toOption

theorem decode_toJson (patch : Patch) : decode patch.toJson = .ok patch := rfl

theorem mapM_decode_toJson (patches : List Patch) :
    (patches.map toJson).mapM (fun item => (decode item).toOption) = some patches := by
  induction patches with
  | nil => rfl
  | cons patch patches ih =>
    rw [List.map_cons, List.mapM_cons, decode_toJson, ih]
    rfl

theorem textual_toJson (patches : List Patch) : Json.Textual 0 (.array (patches.map toJson)) := by
  refine .array (by decide) ?_
  intro item member
  obtain ⟨patch, -, rfl⟩ := List.mem_map.mp member
  have distinct : ["op", "path", "value"].Nodup := by decide
  refine .object (by decide) distinct ?_
  intro field member
  simp only [List.mem_cons, List.not_mem_nil, or_false] at member
  rcases member with rfl | rfl | rfl <;> exact .string _

end Patch

namespace ReviewResponse

variable {response : ReviewResponse}

/-- The patch of an answer is read back as the patches it is made from. -/
theorem ofText?_patchText? {text : String} (h : response.patchText? = some text) :
    Patch.ofText? text = some response.patches := by
  obtain ⟨-, h⟩ := Option.ite_none_left_eq_some.mp h
  obtain rfl := Option.some.inj h
  have read := Json.ofBytes?_bytes (Patch.textual_toJson response.patches)
  rw [Patch.ofText?, String.toList_ofList, Base64.decode?_encode, Option.bind_eq_bind,
    Option.bind_some, read]
  exact Patch.mapM_decode_toJson response.patches

theorem patchText?_eq_none : response.patchText? = none ↔ response.patches = [] := by
  simp [patchText?]

end ReviewResponse

/-- What is in an answer, read off the review that carries it. -/
structure Content (answer : Json) (allowed : Bool) (code : ℕ) (message : Option String)
    (warnings : Option (List String)) (patch : Option String) : Prop where
  allowed : answer.at? ["response", "allowed"] = some (.bool allowed)
  code : answer.at? ["response", "status", "code"] = some (.ofNat code)
  message : answer.at? ["response", "status", "message"] = message.map .string
  warnings : answer.at? ["response", "warnings"] =
    warnings.map fun lines => .array (lines.map .string)
  patchType : answer.at? ["response", "patchType"] = patch.map fun _ => .string "JSONPatch"
  patch : answer.at? ["response", "patch"] = patch.map .string

theorem ReviewResponse.content (response : ReviewResponse) :
    Content response.toJson response.allowed response.code response.message response.warnings
      response.patchText? := by
  rw [toJson]
  cases response.message <;> cases response.warnings <;> cases response.patchText? <;>
    exact ⟨rfl, rfl, rfl, rfl, rfl, rfl⟩

namespace Controller

variable (controller : Controller)

/-- What is decided about a review: it cannot be read as a request, or the admission of the request
ends, or it does not and is cut off. -/
inductive Decides (review : Json) : Except Denial (List Patch) → Prop
  | malformed {denial} (unread : ReviewRequest.ofReview review = .error denial) :
    Decides review (.error denial)
  | ended {request outcome} (read : ReviewRequest.ofReview review = .ok request)
    (ended : (controller.admission request).outcome = some outcome) : Decides review outcome
  | overdue {request} (read : ReviewRequest.ofReview review = .ok request)
    (endless : (controller.admission request).outcome = none) : Decides review (.error .deadline)

/-- The answer to a decision. In detection mode a denial is an admission with a warning. -/
inductive Answers : Except Denial (List Patch) → Json → Prop
  | admitted {patches answer patch} (content : Content answer true 202 none none patch)
    (needed : patch = none ↔ patches = [])
    (encoded : ∀ text ∈ patch, Patch.ofText? text = some patches) : Answers (.ok patches) answer
  | denied {denial answer} (enforcing : controller.settings.detection = false)
    (content : Content answer false 403 (some denial.message) none none) :
    Answers (.error denial) answer
  | detected {denial answer} (detecting : controller.settings.detection = true)
    (content : Content answer true 202 (some denial.message) (some [denial.message]) none) :
    Answers (.error denial) answer

variable {controller} {review : Json} {verdict : Except Denial (List Patch)}

theorem value_verdict (controller : Controller) (review : Json) :
    (controller.verdict review).value =
      match ReviewRequest.ofReview review with
      | .error denial => .error denial
      | .ok request => (controller.admission request).outcome.getD (.error .deadline) := by
  rw [Controller.verdict]
  cases ReviewRequest.ofReview review <;> rfl

theorem decides_iff :
    controller.Decides review verdict ↔ verdict = (controller.verdict review).value := by
  rw [value_verdict]
  constructor
  · intro h
    cases h with
    | malformed unread => rw [unread]
    | ended read ended => simp [read, ended]
    | overdue read endless => simp [read, endless]
  · rintro rfl
    cases read : ReviewRequest.ofReview review with
    | error denial => exact .malformed read
    | ok request =>
      dsimp only
      cases outcome : (controller.admission request).outcome with
      | none => exact .overdue read outcome
      | some decided => exact .ended read outcome

theorem answers_respond (controller : Controller) (uid : String)
    (verdict : Except Denial (List Patch)) :
    controller.Answers verdict (controller.respond uid verdict).toJson := by
  have content := (controller.respond uid verdict).content
  cases verdict with
  | ok patches =>
    have allowed : (controller.respond uid (.ok patches)).allowed = true := rfl
    have quiet : (controller.respond uid (.ok patches)).warnings = none := by
      simp [respond, ReviewResponse.ofVerdict]
    rw [ReviewResponse.code, allowed, quiet] at content
    apply Answers.admitted content ReviewResponse.patchText?_eq_none
    intro text some_patch
    exact ReviewResponse.ofText?_patchText? some_patch
  | error denial =>
    cases mode : controller.settings.detection with
    | false =>
      apply Answers.denied mode
      simpa [respond, ReviewResponse.ofVerdict, ReviewResponse.code, ReviewResponse.patchText?,
        mode] using content
    | true =>
      apply Answers.detected mode
      simpa [respond, ReviewResponse.ofVerdict, ReviewResponse.code, ReviewResponse.patchText?,
        mode] using content

section Reviews

variable {body : List UInt8} {answer : Logged ReviewResponse}

theorem review_eq_error :
    controller.review body = .error (.request .notJson) ↔ ¬ Json.IsTextWithin .reader body := by
  rw [← Json.exists_denotes_iff, ← Json.ofBytes?_eq_none_iff, Controller.review]
  cases Json.ofBytes? body <;> simp

theorem review_eq_ok :
    (∃ answer, controller.review body = .ok answer) ↔ Json.IsTextWithin .reader body := by
  rw [← not_iff_not, ← Json.exists_denotes_iff, ← Json.ofBytes?_eq_none_iff, Controller.review]
  cases Json.ofBytes? body <;> simp

/-- An answer follows from the one decision on what the body denotes. -/
theorem exists_verdict (answered : controller.review body = .ok answer) :
    ∃ review verdict, (∀ other, Json.Denotes body other ↔ other = review) ∧
      (∀ other, controller.Decides review other ↔ other = verdict) ∧
      controller.Answers verdict answer.value.toJson := by
  rw [Controller.review] at answered
  cases read : Json.ofBytes? body with
  | none => simp [read] at answered
  | some review =>
    rw [read] at answered
    obtain rfl := Except.ok.inj answered
    refine ⟨review, (controller.verdict review).value, ?_, ?_, controller.answers_respond _ _⟩
    · intro other
      rw [← Json.ofBytes?_eq_some_iff, read, Option.some.injEq, eq_comm]
    · intro other
      exact decides_iff

end Reviews

/-- Exactly the bodies that are JSON text within the limits of the reader are answered, by what
follows from the decision on them. An answer that allows a request without warnings means that the
request is admitted. -/
theorem review_answered (controller : Controller) (body : List UInt8) :
    (controller.review body = .error (.request .notJson) ↔ ¬ Json.IsTextWithin .reader body) ∧
      ((∃ answer, controller.review body = .ok answer) ↔ Json.IsTextWithin .reader body) ∧
      (Json.IsTextWithin .reader body → Json.IsText body) ∧
      (∀ answer, controller.review body = .ok answer →
        ∃ review verdict, (∀ other, Json.Denotes body other ↔ other = review) ∧
          (∀ other, controller.Decides review other ↔ other = verdict) ∧
          controller.Answers verdict answer.value.toJson) ∧
      (∀ answer, controller.review body = .ok answer →
        answer.value.toJson.at? ["response", "allowed"] = some (.bool true) →
        answer.value.toJson.at? ["response", "warnings"] = none →
        ∃ review request patches, Json.Denotes body review ∧
          ReviewRequest.ofReview review = .ok request ∧
          (controller.admission request).outcome = some (.ok patches)) ∧
      ∀ context error, Denial.message (.image context error) = error.message := by
  refine ⟨review_eq_error, review_eq_ok, Json.IsTextWithin.isText, ?_, ?_, fun _ _ => rfl⟩
  · intro answer answered
    exact exists_verdict answered
  · intro answer answered allowed quiet
    obtain ⟨review, verdict, denotes, decides, answers⟩ := exists_verdict answered
    have read := (denotes review).mpr rfl
    have decided := (decides verdict).mpr rfl
    cases answers with
    | denied enforcing content => simp [content.allowed] at allowed
    | detected detecting content => simp [content.warnings] at quiet
    | admitted content needed encoded =>
      cases decided with
      | ended parsed ended => exact ⟨review, _, _, read, parsed, ended⟩

section Sample

open Json.Grammar

/-- No number as large as the one in this request is read. -/
def sampleHuge : String := "\x7b\"request\":\x7b\"uid\":\"u1\",\"x\":1e400\x7d\x7d"

def sampleIdle : Controller where
  policy := ⟨[]⟩
  validators := ⟨[]⟩
  cluster := fun _ => .error "unavailable"
  settings := .standard

theorem isText_sampleHuge : Json.IsText sampleHuge.toUTF8.toList := by
  have name (cs : List Char) (plain : ∀ c ∈ cs, c ≠ '"' ∧ c ≠ '\\' ∧ ¬ c.toNat < 0x20) :
      Word .unlimited ('"' :: (cs ++ ['"'])) .string :=
    .string (Json.inscribed_of_plain plain) trivial
  have number : Word .unlimited ['1', 'e', '4', '0', '0'] .scalar := by
    have whole : Whole ['1'] := ⟨⟨by simp, by simp⟩, by simp⟩
    have digits : Digits ['4', '0', '0'] := ⟨by simp, by simp⟩
    exact .number (.positive (.intro whole .none (.some (.inl rfl) .none digits))) trivial
  have request : Words .unlimited "\x7b\"uid\":\"u1\",\"x\":1e400\x7d\x7d".toList
      [.openObject, .string, .colon, .string, .comma, .string, .colon, .scalar, .closeObject,
        .closeObject] :=
    .cons .openObject (.cons (name ['u', 'i', 'd'] (by simp)) (.cons .colon
      (.cons (name ['u', '1'] (by simp)) (.cons .comma (.cons (name ['x'] (by simp))
        (.cons .colon (.cons number (.cons .closeObject (.cons .closeObject .nil)))))))))
  have words : Words .unlimited sampleHuge.toList _ :=
    .cons .openObject (.cons (name ['r', 'e', 'q', 'u', 'e', 's', 't'] (by simp))
      (.cons .colon request))
  have inside : Shape .unlimited 1 [.openObject, .string, .colon, .string, .comma, .string,
      .colon, .scalar, .closeObject] :=
    .object trivial (.snoc (.single .string) .scalar)
  exact ⟨sampleHuge, _, rfl, words, .object trivial (.single inside)⟩

/-- A body that is JSON text gets no answer. -/
theorem huge_number_unanswered :
    Json.IsText sampleHuge.toUTF8.toList ∧
      sampleIdle.review sampleHuge.toUTF8.toList = .error (.request .notJson) := by
  have unread : Json.ofBytes? sampleHuge.toUTF8.toList = none := by decide +kernel
  refine ⟨isText_sampleHuge, ?_⟩
  rw [review, unread]

end Sample

end Controller

end SignedAdmission
