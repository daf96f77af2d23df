import SignedAdmission.Proofs.Admission.Answer
import SignedAdmission.Proofs.Admission.Patching

/-! The uid of an answer. It is looked up by its path in the review, while the request itself may
also be read from arrays, in which no path leads to it. -/
namespace SignedAdmission

open Checks

namespace ReviewRequest

open Json

/-- The request of a review is an object, in an object. -/
def Keyed (review : Json) : Prop :=
  ∃ fields, review.field? "request" = some (.object fields)

variable {fields : Json.Fields} {review : Json}

/-- A uid that is read from an object is a field of that object. -/
theorem uid_of_decodeFields {parts : Fields} (read : decodeFields (.object fields) = .ok parts) :
    fields.lookup "uid" = some (.string parts.uid) := by
  simp only [decodeFields, bind_eq_ok, pure_eq_ok] at read
  obtain ⟨slots, visited, uid, uidRead, _, -, _, -, _, -, _, -, _, -, _, -, rfl⟩ := read
  obtain ⟨value, found, decoded⟩ := RecordField.exists_of_get
    (by simp [Record.Plain, RecordField.rule]) (by simp [RecordField.rule]) rfl visited uidRead
  rw [found]
  cases value with
  | string text => rw [← Except.ok.inj decoded]
  | null | bool _ | number _ | array _ | object _ => cases decoded

/-- A request that is read from an object is a field of that object. -/
theorem request_of_decodeReview {parts : Fields}
    (read : decodeReview (.object fields) = .ok parts) :
    ∃ value, fields.lookup "request" = some value ∧ decodeFields value = .ok parts := by
  simp only [decodeReview, bind_eq_ok] at read
  obtain ⟨slots, visited, requestRead⟩ := read
  exact RecordField.exists_of_get (by simp [Record.Plain, RecordField.rule])
    (by simp [RecordField.rule]) rfl visited requestRead

theorem exists_fields_of_ofReview {request : ReviewRequest}
    (accepted : ofReview review = .ok request) :
    ∃ parts, decodeReview review = .ok parts ∧ request.uid = parts.uid := by
  simp only [ofReview, bind_eq_ok, mapError_eq_ok] at accepted
  obtain ⟨parts, read, built⟩ := accepted
  refine ⟨parts, read, ?_⟩
  split at built
  case h_1 => simp at built
  case h_2 =>
    simp only [bind_eq_ok, pure_eq_ok] at built
    obtain ⟨_, -, _, -, rfl⟩ := built
    rfl

end ReviewRequest

namespace Controller

open ReviewRequest Json

variable {review : Json} {request : ReviewRequest}

theorem reviewUid_eq (review : Json) :
    reviewUid review =
      ((review.field? "request").bind fun request =>
        (request.field? "uid").bind Json.string?).getD "" := by
  have path : "/request/uid" = pointerText ["request", "uid"] := by decide
  have step (name : String) (unindexed : index? name = none) (value : Json) (rest : List String) :
      value.at? (name :: rest) = (value.field? name).bind (at? rest) := by
    rw [at?_cons, child?_eq_field? unindexed]
  rw [reviewUid, path, pointer?_pointerText, step "request" rfl, Option.bind_assoc]
  cases review.field? "request" with
  | none => rfl
  | some request =>
    rw [Option.bind_some, Option.bind_some, step "uid" rfl]
    cases request.field? "uid" <;> rfl

/-- The uid of a request that is read from objects is found by its path. -/
theorem reviewUid_of_keyed (accepted : ofReview review = .ok request) (keyed : Keyed review) :
    reviewUid review = request.uid := by
  obtain ⟨fields, found⟩ := keyed
  obtain ⟨parts, read, uid⟩ := exists_fields_of_ofReview accepted
  cases review with
  | null | bool _ | number _ | string _ | array _ => cases found
  | object outer =>
    obtain ⟨value, same, requestRead⟩ := request_of_decodeReview read
    obtain rfl := Option.some.inj (same.symm.trans found)
    have written : (Json.object fields).field? "uid" = some (.string parts.uid) :=
      uid_of_decodeFields requestRead
    rw [reviewUid_eq, found, Option.bind_some, written, uid]
    rfl

/-- No path leads into a request that is not an object in an object. -/
theorem reviewUid_of_not_keyed (positional : ¬ Keyed review) : reviewUid review = "" := by
  rw [reviewUid_eq]
  cases found : review.field? "request" with
  | none => rfl
  | some value =>
    cases value with
    | null | bool _ | number _ | string _ | array _ => rfl
    | object fields => exact absurd ⟨fields, found⟩ positional

theorem uid_respond (controller : Controller) (uid : String)
    (verdict : Except Denial (List Patch)) : (controller.respond uid verdict).uid = uid := by
  cases verdict <;> rfl

/-- The uid that an answer carries. -/
def AnswersUid (controller : Controller) (body : List UInt8) (uid : String) : Prop :=
  ∃ answer, controller.review body = .ok answer ∧
    answer.value.toJson.at? ["response", "uid"] = some (.string uid)

/-- Whatever the verdict, an answer carries the uid that is found by its path in the review. -/
theorem answersUid_iff {body : List UInt8} {uid : String} (controller : Controller)
    (denoted : Json.Denotes body review) :
    controller.AnswersUid body uid ↔ uid = reviewUid review := by
  have read := Json.ofBytes?_eq_some_iff.mpr denoted
  have carried (response : ReviewResponse) :
      response.toJson.at? ["response", "uid"] = some (.string response.uid) := rfl
  rw [AnswersUid, Controller.review, read]
  -- Admissions and denials carry the uid in the same place, so that no verdict is looked at.
  constructor
  · rintro ⟨answer, answered, found⟩
    obtain rfl := Except.ok.inj answered
    rw [carried, uid_respond] at found
    simpa [eq_comm] using found
  · rintro rfl
    refine ⟨_, rfl, ?_⟩
    rw [carried, uid_respond]

/-- Every body from which a request is accepted is answered, and the answer carries the uid of the
request exactly if that is empty or the request is written as an object in an object. The answer to
a request that is accepted from an array carries no uid. -/
theorem answered_uid_iff (controller : Controller) {body : List UInt8}
    (denoted : Json.Denotes body review) (accepted : ofReview review = .ok request) :
    (controller.AnswersUid body request.uid ↔ request.uid = "" ∨ Keyed review) ∧
      (¬ Keyed review → controller.AnswersUid body "") ∧
      ∃ uid, ∀ other, controller.AnswersUid body other ↔ other = uid := by
  refine ⟨?_, ?_, reviewUid review, fun other => controller.answersUid_iff denoted⟩
  · rw [answersUid_iff controller denoted]
    by_cases keyed : Keyed review
    · simp [reviewUid_of_keyed accepted keyed, keyed]
    · simp [reviewUid_of_not_keyed keyed, keyed]
  · intro positional
    exact (controller.answersUid_iff denoted).mpr (reviewUid_of_not_keyed positional).symm

section Sample

open Workload

/-- A review that carries something as its request. -/
def sampleReview (request : Json) : Json :=
  .object [("request", request)]

def sampleKeyed : Json :=
  .object [("uid", .string "u1"), ("kind", .object [("kind", .string "Deployment")]),
    ("namespace", .string "shop"), ("operation", .string "CREATE"),
    ("userInfo", .object [("username", .string "admin")]),
    ("object", .object (sampleFields "web:v1"))]

/-- The same request as an array. -/
def samplePositional : Json :=
  .array [.string "u1", .object [("kind", .string "Deployment")], .string "shop",
    .string "CREATE", .object [("username", .string "admin")],
    .object (sampleFields "web:v1")]

def sampleAccepted : ReviewRequest :=
  { sampleRequest (sample "web:v1") with uid := "u1" }

theorem answered_uid_iff_of_sampleKeyed :
    ofReview (sampleReview sampleKeyed) = .ok sampleAccepted ∧
      (sampleController sampleCluster).AnswersUid (sampleReview sampleKeyed).bytes "u1" := by
  have textual : Json.Textual 0 (sampleReview sampleKeyed) := by
    simp [sampleReview, sampleKeyed, sampleFields, textual_object_iff, textual_array_iff,
      Json.Textual.string, ReadState.maxDepth]
  have accepted : ofReview (sampleReview sampleKeyed) = .ok sampleAccepted := rfl
  have keyed : Keyed (sampleReview sampleKeyed) := ⟨_, rfl⟩
  obtain ⟨exact_iff, -⟩ :=
    answered_uid_iff (sampleController sampleCluster) textual.denotes accepted
  exact ⟨accepted, exact_iff.mpr (.inr keyed)⟩

/-- The same request is accepted from an array, and its uid is not in the answer. -/
theorem positional_uid_dropped :
    Json.Denotes (sampleReview samplePositional).bytes (sampleReview samplePositional) ∧
      ofReview (sampleReview samplePositional) = .ok sampleAccepted ∧
      (sampleController sampleCluster).AnswersUid (sampleReview samplePositional).bytes "" ∧
      ¬ (sampleController sampleCluster).AnswersUid (sampleReview samplePositional).bytes
        sampleAccepted.uid := by
  have textual : Json.Textual 0 (sampleReview samplePositional) := by
    simp [sampleReview, samplePositional, sampleFields, textual_object_iff, textual_array_iff,
      Json.Textual.string, ReadState.maxDepth]
  have accepted : ofReview (sampleReview samplePositional) = .ok sampleAccepted := rfl
  have pathless : reviewUid (sampleReview samplePositional) = "" := rfl
  have denoted := textual.denotes
  refine ⟨denoted, accepted, ?_, ?_⟩
  · rw [answersUid_iff _ denoted, pathless]
  · rw [answersUid_iff _ denoted, pathless]
    simp [sampleAccepted]

end Sample

end Controller

end SignedAdmission
