import Turnstile.About
import Turnstile.App.Message
import Turnstile.App.Pattern
import Turnstile.World

/-!
# Endpoints

An endpoint is a route pattern, the methods it answers and a handler. Three endpoints are built in:
one hands out api tokens, one tells a client who it is, one tells that the gateway is well.

## Main definitions

- `Handler`, `Endpoint` — what answers requests
- `Endpoint.builtin` — the built-in endpoints, and `Registry.builtin` their policies
- `Endpoint.echo` — endpoints that answer with what they were sent
-/

namespace Turnstile

/-- What answers a delivery: it may take time and change the world. -/
abbrev Handler := Delivery → List (String × String) → World → Except Failure Response × World

/-- A pattern, the methods that are answered under it (all, if none are named), and the handler. -/
structure Endpoint where
  pattern : String
  methods : Option (List String)
  handler : Handler

/-- What `/whoami` tells a client. -/
structure Identity where
  user : Option String
  authenticated : Bool
deriving DecidableEq, Repr

namespace Identity

/-- The identity that a delivery carries in its query, authentic if it is the verified one. -/
def ofDelivery (param : String) (d : Delivery) : Identity :=
  let user := (d.uri.pairs.find? fun pair => pair.1 = param).map (·.2)
  ⟨user, user.isSome && user = d.user⟩

/-- An identity as JSON. -/
def toJson (i : Identity) : Json :=
  .ofMembers [("user", Json.ofOption .text i.user), ("authenticated", .bool i.authenticated)]

end Identity

namespace Endpoint

/-- The path that api tokens are handed out at. -/
def tokenPath : String := "/token"

/-- The path at which a client learns who it is. -/
def whoamiPath : String := "/whoami"

/-- The path at which the gateway tells that it is well. -/
def healthPath : String := "/health"

/-- Hands out an api token. -/
def issueToken (g : Gate) : Handler := fun _ _ w =>
  (do return .json (.ofMembers [("token", .text (← g.newApiToken w.now w.entropy))]), w)

/-- Tells a client who it is. -/
def whoami (g : Gate) : Handler := fun d _ w =>
  (.ok (.json (Identity.ofDelivery g.settings.userParam d).toJson), w)

/-- Tells that the gateway is well, and the time. -/
def health : Handler := fun _ _ w =>
  (do
    let now ← readClock w.now
    return .json (.ofMembers [("status", .text "healthy"),
      ("timestamp", .text (Stamp.ofInstant now).renderWithOffset),
      ("version", .text About.version)]), w)

/-- The built-in endpoints of a gate. -/
def builtin (g : Gate) : List Endpoint :=
  [⟨tokenPath, some ["GET"], issueToken g⟩, ⟨whoamiPath, some ["GET"], whoami g⟩,
    ⟨healthPath, some ["GET"], health⟩]

/-- The header that says how long an echo takes. -/
def workHeader : String := "x-work-ns"

/-- The time that a request asks an echo to take. -/
def workOf (headers : Headers) : Span :=
  match (headers.text? workHeader).map fun s => Text.readBounded (Nat.pow 2 64 - 1) s.toList with
  | some (.ok n) => n
  | _ => 0

/-- Takes the time asked for and answers with what was sent. -/
def echoHandler : Handler := fun d params w =>
  match w.advance (workOf d.headers) with
  | .error e => (.error e, w)
  | .ok w =>
    (.ok (.json (.ofMembers [("method", .text d.method), ("path", .text d.uri.path),
      ("query", .text d.query), ("id", Json.ofOption .text (params.lookup "id")),
      ("user", Json.ofOption .text d.user)])), w)

/-- Endpoints that answer with what they were sent. -/
def echo : List Endpoint :=
  [⟨"/echo", none, echoHandler⟩, ⟨"/posts", some ["GET", "POST"], echoHandler⟩,
    ⟨"/posts/\x7bid\x7d", none, echoHandler⟩]

/-- The parameters under which an endpoint answers a method and path. -/
def match? (e : Endpoint) (method path : String) : Option (List (String × String)) :=
  if e.methods.all (·.contains method) then Pattern.match? e.pattern path else none

end Endpoint

namespace Registry

/-- The policies of the built-in endpoints. Tokens are handed out to those who have none yet, so
they can only be limited by address. -/
def builtin : Registry :=
  empty.apply [⟨Endpoint.tokenPath, Policy.limitedByAddress⟩,
    ⟨Endpoint.healthPath, Policy.unlimited⟩,
    ⟨Endpoint.whoamiPath, ({} : Policy).requireUserFor [.always]⟩]

end Registry

end Turnstile
