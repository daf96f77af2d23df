import Mathlib.Data.List.Forall2
import SignedAdmission.Notary.Redirect

/-! Requests on the wire. Every request of an exchange takes a route of its own: one hop for itself,
and one for each redirect that is followed. Credentials stay with the host that they are meant for,
and without redirects nothing but the requests themselves is on the wire. -/
namespace SignedAdmission

namespace Exchange

variable {α β : Type} {x : Exchange α} {f : α → Exchange β} {log : List (Request × Option Response)}

/-- The ways in which an exchange goes: all requests with what comes back, and the value in the
end. -/
inductive Runs : Exchange α → List (Request × Option Response) → α → Prop
  | done (value : α) : Runs (.done value) [] value
  | send {request next log value} (answer : Option Response) (rest : Runs (next answer) log value) :
    Runs (.send request next) ((request, answer) :: log) value

theorem Runs.bind {value : β} (h : (x.bind f).Runs log value) :
    ∃ front middle back, x.Runs front middle ∧ (f middle).Runs back value ∧
      log = front ++ back := by
  induction x generalizing log with
  | done middle => exact ⟨[], middle, log, .done middle, h, rfl⟩
  | send request next ih =>
    cases h with
    | send answer rest =>
      obtain ⟨front, middle, back, first, last, rfl⟩ := ih answer rest
      exact ⟨_, middle, back, .send answer first, last, rfl⟩

end Exchange

namespace Client

/-- The hops that a request takes over the wire until something comes back for it. -/
structure Route (client : Client) (redirects : ℕ) (sent : Request × Option Response)
    (hops : List (Request × Option Response)) : Prop where
  length_le : hops.length ≤ redirects + 1
  opening : ∃ answer, hops.head? = some (sent.1, answer)
  /-- Every further hop is one to where the answer before it redirects. -/
  redirected : hops.IsChain fun hop next => client.next? hop.1 hop.2 = some next.1
  /-- The answer at the last hop comes back, unless that redirects once too often. -/
  closing : ∃ last, hops.getLast? = some last ∧
    (client.next? last.1 last.2 = none ∧ sent.2 = last.2 ∨
      (∃ next, client.next? last.1 last.2 = some next) ∧ hops.length = redirects + 1 ∧ sent.2 = none)
  /-- Credentials are shown to one host and port only. -/
  shown : ∀ hop ∈ hops, hop.1.authorization = none ∨
    hop.1.authorization = sent.1.authorization ∧
      client.authority hop.1.url = client.authority sent.1.url

variable {client : Client} {redirects : ℕ} {request next : Request}
  {answer first : Option Response} {sent : Request × Option Response}
  {hops wire log : List (Request × Option Response)}
  {routes : List (List (Request × Option Response))}

theorem confined_next? (target : client.next? request first = some next) :
    next.authorization = none ∨ next.authorization = request.authorization ∧
      client.authority next.url = client.authority request.url := by
  obtain ⟨response, -, redirect⟩ := Option.bind_eq_some_iff.mp target
  exact client.confined redirect

theorem Route.answered (quiet : client.next? request answer = none) :
    client.Route redirects (request, answer) [(request, answer)] where
  length_le := Nat.le_add_left 1 redirects
  opening := ⟨answer, rfl⟩
  redirected := .singleton _
  closing := ⟨_, rfl, .inl ⟨quiet, rfl⟩⟩
  shown hop member := by
    obtain rfl := List.mem_singleton.mp member
    exact .inr ⟨rfl, rfl⟩

theorem Route.cons (target : client.next? request first = some next)
    (rest : client.Route redirects (next, answer) hops) :
    client.Route (redirects + 1) (request, answer) ((request, first) :: hops) where
  length_le := Nat.succ_le_succ rest.length_le
  opening := ⟨first, rfl⟩
  redirected := by
    obtain ⟨second, begins⟩ := rest.opening
    obtain ⟨later, rfl⟩ := List.head?_eq_some_iff.mp begins
    exact .cons_cons target rest.redirected
  closing := by
    obtain ⟨last, ends, closed⟩ := rest.closing
    obtain ⟨before, rfl⟩ := List.getLast?_eq_some_iff.mp ends
    have ends : ((request, first) :: (before ++ [last])).getLast? = some last :=
      List.getLast?_eq_some_iff.mpr ⟨(request, first) :: before, rfl⟩
    exact ⟨last, ends, by simpa using closed⟩
  shown hop member := by
    obtain rfl | later := List.mem_cons.mp member
    · exact .inr ⟨rfl, rfl⟩
    obtain hidden | ⟨kept, near⟩ := rest.shown hop later
    · exact .inl hidden
    obtain hidden | ⟨kept', near'⟩ := confined_next? target
    · exact .inl (kept.trans hidden)
    · exact .inr ⟨kept.trans kept', near.trans near'⟩

end Client

end SignedAdmission
