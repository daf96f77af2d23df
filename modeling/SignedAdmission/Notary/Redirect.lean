import SignedAdmission.Notary.Exchange

/-! Clients that requests are handed to. They follow redirects on their own: one request may take
several hops, and what comes back to whoever makes it is the answer at the last of them. -/
namespace SignedAdmission

/-- A client. Which answers redirect, and where to, is up to it. -/
structure Client where
  /-- The host and the port of an address. -/
  authority : String → String
  /-- What is asked next if an answer redirects. -/
  redirect? : Request → Response → Option Request
  /-- At most so many redirects are followed for one request. -/
  maxRedirects : Nat
  /-- Credentials are kept for the same host and port only. -/
  confined : ∀ {asked response next}, redirect? asked response = some next →
    next.authorization = none ∨ next.authorization = asked.authorization ∧
      authority next.url = authority asked.url

namespace Client

/-- A client that goes by status and location. The address that a location stands for where it is
named is found by `resolve`. -/
def standard (resolve : String → List UInt8 → Option String) (authority : String → String) :
    Client where
  authority := authority
  maxRedirects := 10
  redirect? asked response := do
    guard ([301, 302, 303, 307, 308].contains response.status)
    let url ← resolve asked.url (← response.location)
    return ⟨url, if authority url = authority asked.url then asked.authorization else none⟩
  confined := by
    intro asked response next redirect
    obtain ⟨-, -, redirect⟩ := Option.bind_eq_some_iff.mp redirect
    obtain ⟨location, -, redirect⟩ := Option.bind_eq_some_iff.mp redirect
    obtain ⟨url, -, redirect⟩ := Option.bind_eq_some_iff.mp redirect
    obtain rfl := Option.some.inj redirect
    by_cases same : authority url = authority asked.url
    · exact .inr ⟨if_pos same, same⟩
    · exact .inl (if_neg same)

/-- What is asked after a hop, if anything comes back that redirects. -/
def next? (client : Client) (asked : Request) (answer : Option Response) : Option Request :=
  answer.bind (client.redirect? asked)

end Client

end SignedAdmission
