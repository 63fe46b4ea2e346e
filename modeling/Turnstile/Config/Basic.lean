import Turnstile.Gate.Keeper

/-!
# Configuration

What a gateway can be told: where it listens, its secret and the names it uses, how it limits, where
its buckets live, and the policies of its routes. Everything has a default.

## Main definitions

- `Config` — a whole configuration, in the sections `Config.Server`, `Config.Auth`,
  `Config.RateLimit`, `Config.Storage` and a list of routes
- `Config.Server.address`, `Config.Auth.signer`, `Config.RateLimit.settings` — what follows from it
-/

namespace Turnstile

namespace Config

/-- Where the gateway listens. -/
structure Server where
  host : String := "0.0.0.0"
  port : UInt16 := 8000
  workers : Option UInt64 := none
  trustForwardedFor : Bool := false
deriving DecidableEq

/-- The secret, and the names under which tokens and users travel. -/
structure Auth where
  secret : Option String := none
  userTokenTtlSecs : UInt64 := 172800
  apiTokenHeader : String := "X-API-TOKEN"
  userTokenHeader : String := "X-USER-TOKEN"
  userParam : String := "_asUser"
deriving DecidableEq

/-- How subjects are limited and when idle buckets are swept. -/
structure RateLimit where
  capacityMs : UInt64 := 30000
  intervalMs : UInt64 := 5000
  perIntervalMs : UInt64 := 5000
  tokenTimeoutSecs : Option UInt64 := none
  cleanIntervalSecs : UInt64 := 60
  staleAfterSecs : UInt64 := 300
deriving DecidableEq

/-- Where buckets can live. -/
inductive Backend where
  | memory
  | redis
deriving DecidableEq, Repr

/-- Where buckets live. -/
structure Storage where
  backend : Backend := .memory
  redisUrl : String := "redis://127.0.0.1:6379"
  keyPrefix : String := "shield:rl:"
deriving DecidableEq

end Config

/-- The configuration of a gateway. -/
structure Config where
  server : Config.Server := {}
  auth : Config.Auth := {}
  rateLimit : Config.RateLimit := {}
  storage : Config.Storage := {}
  routes : List Route := []
deriving DecidableEq

namespace Config

/-- The address to listen on. -/
def Server.address (s : Server) : String :=
  s.host ++ ":" ++ toString s.port.toNat

/-- The signer for the secret; an empty secret is none. -/
def Auth.signer (a : Auth) : Option Signer :=
  (Gate.given a.secret).map Signer.ofText

/-- How long user tokens live. -/
def Auth.userTokenLifetime (a : Auth) : Span :=
  Span.ofSeconds a.userTokenTtlSecs.toNat

/-- Where the gate finds tokens and passes the user on. -/
def Auth.gateSettings (a : Auth) (trustForwardedFor : Bool) : GateSettings :=
  ⟨a.apiTokenHeader, a.userTokenHeader, a.userParam, trustForwardedFor⟩

/-- The tuning of the limiter. -/
def RateLimit.settings (r : RateLimit) : LimiterSettings :=
  ⟨Span.ofMillis r.capacityMs.toNat, Span.ofMillis r.intervalMs.toNat,
    Span.ofMillis r.perIntervalMs.toNat, r.tokenTimeoutSecs.map fun s => Span.ofSeconds s.toNat⟩

/-- How often idle buckets are swept. -/
def RateLimit.cleanInterval (r : RateLimit) : Span :=
  Span.ofSeconds r.cleanIntervalSecs.toNat

/-- How long a bucket may lie idle before it is swept. -/
def RateLimit.staleAfter (r : RateLimit) : Span :=
  Span.ofSeconds r.staleAfterSecs.toNat

/-- The name of a backend. -/
def Backend.name : Backend → String
  | .memory => "memory"
  | .redis => "redis"

/-- The backends in order. -/
def Backend.all : List Backend := [.memory, .redis]

/-- The backend with a name. -/
def Backend.ofName? (s : String) : Option Backend :=
  all.find? fun b => b.name = s

/-- The settings of the gate. -/
def gateSettings (c : Config) : GateSettings :=
  c.auth.gateSettings c.server.trustForwardedFor

end Config

end Turnstile
