import SignedAdmission.Workload.Object

/-! Requests to admit a workload. -/
namespace SignedAdmission

open Json

inductive Operation where
  | create
  | update
  | delete
  | connect
deriving DecidableEq, Repr

namespace Operation

def all : List Operation := [create, update, delete, connect]

def text : Operation → String
  | create => "CREATE"
  | update => "UPDATE"
  | delete => "DELETE"
  | connect => "CONNECT"

def ofText? (text : String) : Option Operation :=
  all.find? (·.text == text)

end Operation

structure ReviewRequest where
  uid : String
  kind : String
  namespaceName : String
  operation : Operation
  user : String
  object : Workload
  /-- The version of the object that an update replaces. -/
  oldObject : Option Workload

namespace ReviewRequest

def decodeKind (value : Json) : Except ShapeError String := do
  let kind : RecordField String := { name := "kind", decode := Decoder.string }
  kind.get (← Record.slots "RequestKind" [kind.rule] value)

def decodeUser (value : Json) : Except ShapeError String := do
  let username : RecordField String :=
    { name := "username", decode := Decoder.string, absence := .anywhere "" }
  username.get (← Record.slots "UserInfo" [username.rule] value)

/-- The fields of a request before its objects are read. -/
structure Fields where
  uid : String
  kind : String
  namespaceName : String
  operation : String
  user : String
  object : Json
  oldObject : Option Json

def decodeFields (value : Json) : Except ShapeError Fields := do
  let uid : RecordField String := { name := "uid", decode := Decoder.string }
  let kind : RecordField String := { name := "kind", decode := decodeKind }
  let namespaceName : RecordField String :=
    { name := "namespace", decode := Decoder.string, absence := .anywhere "" }
  let operation : RecordField String := { name := "operation", decode := Decoder.string }
  let user : RecordField String := { name := "userInfo", decode := decodeUser }
  let object : RecordField Json := { name := "object", decode := Decoder.any }
  let oldObject : RecordField (Option Json) :=
    { name := "oldObject", decode := Decoder.optional Decoder.any, absence := .anywhere none }
  let slots ← Record.slots "RawRequest"
    [uid.rule, kind.rule, namespaceName.rule, operation.rule, user.rule, object.rule,
      oldObject.rule] value
  return {
    uid := ← uid.get slots
    kind := ← kind.get slots
    namespaceName := ← namespaceName.get slots
    operation := ← operation.get slots
    user := ← user.get slots
    object := ← object.get slots
    oldObject := ← oldObject.get slots }

def decodeReview (value : Json) : Except ShapeError Fields := do
  let request : RecordField Fields := { name := "request", decode := decodeFields }
  request.get (← Record.slots "RawReview" [request.rule] value)

/-- The request that a review carries. -/
def ofReview (review : Json) : Except Denial ReviewRequest := do
  let fields ← (decodeReview review).mapError fun e => .request (.review e)
  match Operation.ofText? fields.operation with
  | none => throw (.request (.operation fields.operation))
  | some operation =>
    let object ← Workload.ofJson fields.object fields.namespaceName
    let oldObject ← fields.oldObject.mapM (Workload.ofJson · fields.namespaceName)
    return {
      uid := fields.uid
      kind := fields.kind
      namespaceName := fields.namespaceName
      operation := operation
      user := fields.user
      object := object
      oldObject := oldObject }

/-- The details that log lines give of a request. -/
def context (request : ReviewRequest) : String :=
  "user=" ++ request.user ++ " operation=" ++ request.operation.text ++ " kind=" ++ request.kind ++
    " name=" ++ request.object.name ++ " namespace=" ++ request.namespaceName

end ReviewRequest

end SignedAdmission
