/-! Conversations with servers. An exchange hands one request at a time to a client and goes on with
what comes back; a server may answer differently each time, depending on what was sent before. -/
namespace SignedAdmission

/-- The credentials of a request. -/
inductive Authorization where
  | basic (username password : String)
  | bearer (token : String)
deriving DecidableEq, Repr

/-- A request for what is at an address, with the credentials that are set on it. A user who is named
within the address is a part of the address. -/
structure Request where
  url : String
  authorization : Option Authorization
deriving DecidableEq, Repr

/-- An answer. On the wire it may redirect to a location. The client follows that, so that a request
comes back with such an answer only if it names no address. -/
structure Response where
  status : Nat
  /-- The bytes of the authentication challenge, if there is one. -/
  challenge : Option (List UInt8)
  /-- The bytes of the location, if there is one. -/
  location : Option (List UInt8) := none
  body : List UInt8
deriving DecidableEq, Repr

namespace Response

def isClientError (response : Response) : Bool :=
  400 ≤ response.status && response.status < 500

def isServerError (response : Response) : Bool :=
  500 ≤ response.status && response.status < 600

end Response

/-- A conversation that ends with a value. What comes back for a request is the answer that is left
when all redirects are followed, or nothing if the transport fails or there are too many of them. -/
inductive Exchange (α : Type) where
  | done (value : α)
  | send (request : Request) (next : Option Response → Exchange α)

/-- What a request gets after those that were sent before it, if anything. -/
abbrev Server := List Request → Request → Option Response

namespace Exchange

def bind (x : Exchange α) (f : α → Exchange β) : Exchange β :=
  match x with
  | .done value => f value
  | .send request next => .send request fun response => (next response).bind f

instance : Monad Exchange where
  pure := done
  bind := Exchange.bind

/-- Everything that was sent, with what came back, after `earlier` requests. -/
def transcript (server : Server) (earlier : List Request) :
    Exchange α → List (Request × Option Response)
  | .done _ => []
  | .send request next =>
    let response := server earlier request
    (request, response) :: transcript server (earlier ++ [request]) (next response)

/-- The value that the conversation with a server ends with, after `earlier` requests. -/
def run (server : Server) (earlier : List Request) : Exchange α → α
  | .done value => value
  | .send request next => run server (earlier ++ [request]) (next (server earlier request))

end Exchange

/-- A server that cannot be reached. -/
def Server.unreachable : Server := fun _ _ => none

end SignedAdmission
