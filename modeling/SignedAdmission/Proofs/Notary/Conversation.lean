import SignedAdmission.Notary.Fetch
import SignedAdmission.Proofs.Notary.Hops
import SignedAdmission.Proofs.TrustData.Vouching

/-! The requests that a document is asked for with. Whatever comes back, there are at most three of
them, and each says which credentials it shows and to whom. A client adds to them only the redirects
that it follows. -/
namespace SignedAdmission

open Checks

/-- An answer that is no error of the client or the server. -/
def Response.Accepting (response : Response) : Prop :=
  response.isClientError = false ∧ response.isServerError = false

theorem Response.Accepting.status_ne {response : Response} (accepting : response.Accepting)
    {status : Nat} (error : 400 ≤ status ∧ status < 500) : response.status ≠ status := by
  rintro rfl
  have client := accepting.1
  simp [Response.isClientError, error] at client

/-- The answer holds a document of a role. -/
def Document.Delivered (role : Role) (answer : Option Response) (document : Document) : Prop :=
  ∃ response, answer = some response ∧ response.Accepting ∧
    Document.ofBytes role response.body = .ok document

theorem Document.Delivered.wellFormed {role : Role} {answer : Option Response}
    {document : Document} (delivered : document.Delivered role answer) :
    document.WellFormed role := by
  obtain ⟨response, -, -, read⟩ := delivered
  rw [ofBytes] at read
  split at read
  · exact ofJson_wellFormed read
  · contradiction

namespace Notary

section Answers

variable {notary : Notary} {role : Role} {url endpoint token : String}
  {answer : Option Response} {document : Document}

/-- The answer refuses a request with a challenge that names a token endpoint. -/
def Challenged (notary : Notary) (answer : Option Response) (endpoint : String) : Prop :=
  ∃ response challenge, answer = some response ∧ response.status = 401 ∧
    response.challenge = some challenge ∧ notary.tokenUrl challenge = .ok endpoint

/-- The answer of a token endpoint holds a token. -/
def Granted (notary : Notary) (endpoint : String) (answer : Option Response) (token : String) :
    Prop :=
  ∃ response, answer = some response ∧ response.Accepting ∧
    Token.ofBody notary.settings.isAcr endpoint response.body = .ok token

theorem documentOf_eq_ok :
    notary.documentOf role url answer = .ok document ↔ document.Delivered role answer := by
  cases answer with
  | none => simp [documentOf, Document.Delivered]
  | some response =>
    simp only [documentOf, Document.Delivered, Option.some.injEq, exists_eq_left']
    split
    case isTrue missing =>
      have refused : ¬ response.Accepting := fun accepting =>
        accepting.status_ne (by decide) missing
      simp [refused]
    case isFalse =>
      split
      case isTrue error =>
        have refused : ¬ response.Accepting := by
          rintro ⟨client, server⟩
          simp [client, server] at error
        simp [refused]
      case isFalse accepting =>
        have accepting : response.Accepting := by simpa [Response.Accepting] using accepting
        simp [accepting]

theorem tokenOf_eq_ok :
    notary.tokenOf endpoint answer = .ok token ↔ notary.Granted endpoint answer token := by
  cases answer with
  | none => simp [tokenOf, Granted]
  | some response =>
    simp only [tokenOf, Granted, Option.some.injEq, exists_eq_left']
    split
    case isTrue server => simp [Response.Accepting, server]
    case isFalse server =>
      split
      case isTrue unauthorized =>
        have refused : ¬ response.Accepting := fun accepting =>
          unauthorized.elim (accepting.status_ne (by decide)) (accepting.status_ne (by decide))
        simp [refused]
      case isFalse =>
        split
        case isTrue client => simp [Response.Accepting, client]
        case isFalse client => simp [Response.Accepting, server, client]

theorem Challenged.unique {other : String} (first : notary.Challenged answer endpoint)
    (second : notary.Challenged answer other) : endpoint = other := by
  obtain ⟨response, challenge, rfl, -, challenged, named⟩ := first
  obtain ⟨same, again, ⟨⟩, -, challenged', named'⟩ := second
  obtain rfl := Option.some.inj (challenged.symm.trans challenged')
  exact Except.ok.inj (named.symm.trans named')

theorem Granted.unique {other : String} (first : notary.Granted endpoint answer token)
    (second : notary.Granted endpoint answer other) : token = other :=
  Except.ok.inj ((tokenOf_eq_ok.mpr first).symm.trans (tokenOf_eq_ok.mpr second))

end Answers

/-- The ways in which the document at an address is asked for: everything that is sent, with the
answers, and what comes of it. -/
inductive Conversation (notary : Notary) (role : Role) (url : String) :
    List (Request × Option Response) → Except TrustError Document → Prop
  | unchallenged {first}
    (quiet : ∀ response, first = some response → response.status = 401 →
      response.challenge = none) :
    Conversation notary role url [(⟨url, none⟩, first)] (notary.documentOf role url first)
  | unusable {response challenge e} (refused : response.status = 401)
    (challenged : response.challenge = some challenge)
    (unusable : notary.tokenUrl challenge = .error e) :
    Conversation notary role url [(⟨url, none⟩, some response)] (.error e)
  | ungranted {first endpoint second e} (challenged : notary.Challenged first endpoint)
    (ungranted : notary.tokenOf endpoint second = .error e) :
    Conversation notary role url
      [(⟨url, none⟩, first), (notary.tokenRequest endpoint, second)] (.error e)
  | authorized {first endpoint second token third}
    (challenged : notary.Challenged first endpoint)
    (granted : notary.Granted endpoint second token) :
    Conversation notary role url
      [(⟨url, none⟩, first), (notary.tokenRequest endpoint, second),
        (⟨url, some (.bearer token)⟩, third)]
      (notary.documentOf role url third)

section Runs

variable {notary : Notary} {image : Reference} {role : Role}
  {log : List (Request × Option Response)} {result : Except TrustError Document}

end Runs

section Rules

variable {notary : Notary} {role : Role} {url : String} {log : List (Request × Option Response)}
  {result : Except TrustError Document}

/-- What is sent at each position. -/
theorem Conversation.sent (h : notary.Conversation role url log result) {i : Nat}
    {request : Request} {answer : Option Response} (sent : log[i]? = some (request, answer)) :
    i = 0 ∧ request = ⟨url, none⟩ ∨
      i = 1 ∧ (∃ endpoint, request = notary.tokenRequest endpoint) ∨
      i = 2 ∧ ∃ token, request = ⟨url, some (.bearer token)⟩ := by
  cases h <;> rcases i with _ | _ | _ | i <;>
    simp only [List.getElem?_cons_zero, List.getElem?_cons_succ, List.getElem?_nil,
      Option.some.injEq, Prod.mk.injEq, reduceCtorEq] at sent
  case unchallenged.zero | unusable.zero | ungranted.zero | authorized.zero =>
    exact .inl ⟨rfl, sent.1.symm⟩
  case ungranted.succ.zero | authorized.succ.zero =>
    exact .inr (.inl ⟨rfl, _, sent.1.symm⟩)
  case authorized.succ.succ.zero =>
    exact .inr (.inr ⟨rfl, _, sent.1.symm⟩)

theorem Conversation.delivered (h : notary.Conversation role url log result)
    (document : Document) :
    result = .ok document ↔
      log.length ≠ 2 ∧ ∃ request answer, log.getLast? = some (request, answer) ∧
        request.url = url ∧ document.Delivered role answer := by
  cases h with
  | unchallenged => simp [documentOf_eq_ok]
  | @unusable response _ _ refused =>
    have undelivered : ¬ document.Delivered role (some response) := by
      rintro ⟨_, ⟨⟩, accepting, -⟩
      exact accepting.status_ne (by decide) refused
    simp [undelivered]
  | ungranted => simp
  | authorized => simp [documentOf_eq_ok]

end Rules

section Sample

end Sample

end Notary

end SignedAdmission
