import Turnstile.Gate.Keeper
import Turnstile.Json.Writer
import Turnstile.Net.Forwarded
import Turnstile.Net.Header
import Turnstile.Net.Identity

/-!
# Requests and responses

What comes in from a client, what the gate makes of it, what goes on to the routes, and what goes
back.

## Main definitions

- `Request` — a request, and `Request.forGate` what the gate is asked about it
- `Delivery` — an admitted request on its way to a handler
- `Response` — an answer, of JSON, of a failure, or empty
-/

namespace Turnstile

/-- A request as it comes in. -/
structure Request where
  method : String
  uri : Uri
  headers : Headers := []
  peer : Option Address := none

namespace Request

/-- The subject of requests whose sender is not known. -/
def unknownPeer : String := "unknown"

/-- The address that a request is limited by: that of the peer, or of the client behind it if
forwarded addresses are trusted. -/
def clientAddress (peer : Option Address) (headers : Headers) (trust : Bool) : String :=
  match peer with
  | none => unknownPeer
  | some peer =>
    if trust then (Forwarded.resolve peer (headers.text? Forwarded.header)).render else peer.render

/-- What a gate is asked about a request. -/
def forGate (r : Request) (s : GateSettings) : GateRequest :=
  ⟨r.method, clientAddress r.peer r.headers s.trustForwardedFor, r.headers.text? s.apiTokenHeader,
    r.headers.text? s.userTokenHeader⟩

end Request

/-- An admitted request on its way to a handler, with the verified user beside it. -/
structure Delivery where
  method : String
  uri : Uri
  headers : Headers
  user : Option String

namespace Delivery

/-- The query as handlers see it, empty if there is none. -/
def query (d : Delivery) : String := d.uri.query.getD ""

end Delivery

/-- An answer to a request. -/
structure Response where
  status : Nat
  contentType : Option String
  body : String
deriving DecidableEq, Repr

namespace Response

/-- The name under which the gateway answers. -/
def server : String := "shield-rs"

/-- A successful answer of JSON. -/
def json (v : Json) : Response := ⟨200, some "application/json", v.render⟩

/-- The answer to a request that failed. -/
def failed (f : Failure) : Response := ⟨f.status, some "text/plain; charset=utf-8", f.body⟩

/-- The answer where there is no route. -/
def notFound : Response := ⟨404, none, ""⟩

end Response

end Turnstile
