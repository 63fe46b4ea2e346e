import Turnstile.App.Endpoint
import Turnstile.Config.Basic

/-!
# Serving requests

An application is a gate in front of endpoints. Each request is decided on by the gate under the
policy of the pattern that its path matches. An admitted request goes on to the endpoints with the
verified user in its query and nothing there that the client put in the user's place, and its
subject is charged for the time that took, however it ended.

The pattern is matched with the path as it was sent, and the endpoint with the decoded path.

## Main definitions

- `App` — a gate and endpoints, `App.ofConfig` the one that a configuration describes
- `Exchange` — all that happened to a request
- `App.serve` — serving a request
-/

namespace Turnstile

/-- A gate in front of endpoints. -/
structure App where
  gate : Gate
  endpoints : List Endpoint

/-- What became of a request behind the gate: what was delivered, the pattern of the endpoint that
answered, if one did, and the time it took. -/
structure Handling where
  delivery : Delivery
  endpoint : Option String
  elapsed : Span

/-- All that happened to a request: the policy it was decided under, the decision, what became of it
behind the gate, and the response. -/
structure Exchange where
  policy : Policy
  decision : Except Failure Admission
  handling : Option Handling
  response : Response

namespace App

/-- The gate that a configuration describes. -/
def gateOf (c : Config) : Gate where
  signer := c.auth.signer
  limiter := c.rateLimit.settings
  policies := Registry.builtin.apply c.routes
  settings := c.gateSettings
  userTokenLifetime := c.auth.userTokenLifetime

/-- The application that a configuration describes, with further endpoints behind the built-in
ones. -/
def ofConfig (c : Config) (endpoints : List Endpoint) : App :=
  ⟨gateOf c, Endpoint.builtin (gateOf c) ++ endpoints⟩

/-- The pattern that a path matches, whatever the method. -/
def patternOf (app : App) (path : String) : Option String :=
  (app.endpoints.find? fun e => (Pattern.match? e.pattern path).isSome).map (·.pattern)

/-- The policy that a request is decided under. -/
def policyFor (app : App) (req : Request) : Policy :=
  app.gate.policies.lookup (app.patternOf req.uri.path)

/-- The endpoint that answers a delivery, with the parameters of its path. -/
def endpointFor (app : App) (d : Delivery) : Option (Endpoint × List (String × String)) :=
  app.endpoints.findSome? fun e =>
    (e.match? d.method (Pattern.decodePath d.uri.path)).map (e, ·)

/-- Has a delivery answered: the pattern of the endpoint that did, and its answer. -/
def dispatch (app : App) (d : Delivery) (w : World) :
    Option String × Except Failure Response × World :=
  match app.endpointFor d with
  | none => (none, .ok .notFound, w)
  | some (e, params) => (some e.pattern, e.handler d params w)

/-- The response to a result. A clock that cannot be read stops everything. -/
def respond : Except Failure Response → Except Failure Response
  | .ok r => .ok r
  | .error .halted => .error .halted
  | .error e => .ok (.failed e)

/-- Charges for an admitted request. A store that fails is passed over. -/
def charge (admission : Admission) (elapsed : Span) (w : World) : Except Failure World :=
  match Gate.settle admission elapsed w.store w.now with
  | .ok store => .ok { w with store := store }
  | .error .halted => .error .halted
  | .error _ => .ok w

/-- What an admitted request carries on to the endpoints. -/
def deliver (app : App) (req : Request) (admission : Admission) : Except Failure Delivery := do
  let rewritten ← req.uri.withUser app.gate.settings.userParam admission.user
  return ⟨req.method, rewritten.getD req.uri, req.headers, admission.user⟩

/-- Handles an admitted request and charges for it. -/
def handle (app : App) (policy : Policy) (admission : Admission) (d : Delivery) (w : World) :
    Except Failure (Exchange × World) := do
  let (endpoint, result, after) := app.dispatch d w
  let response ← respond result
  let elapsed := after.reading - w.reading
  let charged ← charge admission elapsed after
  return (⟨policy, .ok admission, some ⟨d, endpoint, elapsed⟩, response⟩, charged)

/-- Serves a request. Only a clock that cannot be read keeps it from being answered. -/
def serve (app : App) (req : Request) (w : World) : Except Failure (Exchange × World) := do
  let policy := app.policyFor req
  let (decision, store) :=
    app.gate.judge policy (req.forGate app.gate.settings) w.store w.now
  let w := { w with store := store }
  match decision with
  | .error .halted => throw .halted
  | .error e => return (⟨policy, .error e, none, .failed e⟩, w)
  | .ok admission =>
    match app.deliver req admission with
    | .error e => return (⟨policy, .ok admission, none, .failed e⟩, w)
    | .ok d => app.handle policy admission d w

end App

end Turnstile
