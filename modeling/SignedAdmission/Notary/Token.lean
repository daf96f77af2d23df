import SignedAdmission.Error
import SignedAdmission.Json.Reader

/-! Tokens that token endpoints hand out. -/
namespace SignedAdmission.Token

def isPartChar (c : Char) : Bool :=
  c.isAlphanum || c == '_' || c == '=' || c == '-'

def isTailChar (c : Char) : Bool :=
  isPartChar c || c == '.' || c == '+' || c == '/'

/-- Two parts with a point between them, and possibly more. -/
def isWellFormed (cs : List Char) : Bool :=
  !(cs.takeWhile isPartChar).isEmpty &&
    match cs.dropWhile isPartChar with
    | '.' :: c :: rest => isPartChar c && rest.all isTailChar
    | _ => false

/-- The token in the answer of a token endpoint. -/
def ofBody (isAcr : Bool) (url : String) (body : List UInt8) : Except TrustError String := do
  let field := if isAcr then "access_token" else "token"
  match (Json.ofBytes? body).bind fun value => (value.field? field).bind Json.string? with
  | none => throw (.missing (.token url))
  | some token =>
    if isWellFormed token.toList then return token
    else throw (.format .token)

end SignedAdmission.Token
