import Turnstile.Config.Basic

/-!
# Configurations as data

How a configuration is written as a tree, and how it is read from any format. Every field may be
left out but the pattern of a route.

## Main definitions

- `Config.toData` — a configuration as a tree
- `Config.read?` — the reader
-/

namespace Turnstile.Config

variable {σ : Type} [Source σ]

/-- An optional number as a tree. -/
def numberData (n : Option UInt64) : Data :=
  Data.option (fun m => .nat m.toNat) n

/-- Reads a number of 16 bits. -/
def read16? (v : σ) : Option UInt16 :=
  (Source.nat? (Nat.pow 2 16 - 1) v).map UInt16.ofNat

/-- Reads a number of 64 bits. -/
def read64? (v : σ) : Option UInt64 :=
  (Source.nat? (Nat.pow 2 64 - 1) v).map UInt64.ofNat

/-- The section on listening as a tree. -/
def Server.toData (s : Server) : Data :=
  .record [("host", .text s.host), ("port", .nat s.port.toNat), ("workers", numberData s.workers),
    ("trust_forwarded_for", .bool s.trustForwardedFor)]

/-- Reads the section on listening. -/
def Server.read? (v : σ) : Option Server := do
  let d : Server := {}
  let fields ← Record.open? ["host", "port", "workers", "trust_forwarded_for"] v
  let host ← Record.field? fields "host" Source.text? d.host
  let port ← Record.field? fields "port" read16? d.port
  let workers ← Record.field? fields "workers" (Record.optional? read64?) d.workers
  let trust ← Record.field? fields "trust_forwarded_for" Source.bool? d.trustForwardedFor
  return ⟨host, port, workers, trust⟩

/-- The section on tokens as a tree. -/
def Auth.toData (a : Auth) : Data :=
  .record [("secret", Data.option .text a.secret),
    ("user_token_ttl_secs", .nat a.userTokenTtlSecs.toNat),
    ("api_token_header", .text a.apiTokenHeader), ("user_token_header", .text a.userTokenHeader),
    ("user_param", .text a.userParam)]

/-- Reads the section on tokens. -/
def Auth.read? (v : σ) : Option Auth := do
  let d : Auth := {}
  let fields ← Record.open?
    ["secret", "user_token_ttl_secs", "api_token_header", "user_token_header", "user_param"] v
  let secret ← Record.field? fields "secret" (Record.optional? Source.text?) d.secret
  let ttl ← Record.field? fields "user_token_ttl_secs" read64? d.userTokenTtlSecs
  let api ← Record.field? fields "api_token_header" Source.text? d.apiTokenHeader
  let user ← Record.field? fields "user_token_header" Source.text? d.userTokenHeader
  let param ← Record.field? fields "user_param" Source.text? d.userParam
  return ⟨secret, ttl, api, user, param⟩

/-- The section on limiting as a tree. -/
def RateLimit.toData (r : RateLimit) : Data :=
  .record [("capacity_ms", .nat r.capacityMs.toNat), ("interval_ms", .nat r.intervalMs.toNat),
    ("per_interval_ms", .nat r.perIntervalMs.toNat),
    ("token_timeout_secs", numberData r.tokenTimeoutSecs),
    ("clean_interval_secs", .nat r.cleanIntervalSecs.toNat),
    ("stale_after_secs", .nat r.staleAfterSecs.toNat)]

/-- Reads the section on limiting. -/
def RateLimit.read? (v : σ) : Option RateLimit := do
  let d : RateLimit := {}
  let fields ← Record.open? ["capacity_ms", "interval_ms", "per_interval_ms", "token_timeout_secs",
    "clean_interval_secs", "stale_after_secs"] v
  let capacity ← Record.field? fields "capacity_ms" read64? d.capacityMs
  let interval ← Record.field? fields "interval_ms" read64? d.intervalMs
  let perInterval ← Record.field? fields "per_interval_ms" read64? d.perIntervalMs
  let timeout ← Record.field? fields "token_timeout_secs" (Record.optional? read64?)
    d.tokenTimeoutSecs
  let clean ← Record.field? fields "clean_interval_secs" read64? d.cleanIntervalSecs
  let stale ← Record.field? fields "stale_after_secs" read64? d.staleAfterSecs
  return ⟨capacity, interval, perInterval, timeout, clean, stale⟩

/-- The section on storage as a tree. -/
def Storage.toData (s : Storage) : Data :=
  .record [("backend", .text s.backend.name), ("redis_url", .text s.redisUrl),
    ("key_prefix", .text s.keyPrefix)]

/-- Reads the name of a backend. -/
def readBackend? (v : σ) : Option Backend := do
  Backend.ofName? (← Source.variant? (Backend.all.map (·.name)) v)

/-- Reads the section on storage. -/
def Storage.read? (v : σ) : Option Storage := do
  let d : Storage := {}
  let fields ← Record.open? ["backend", "redis_url", "key_prefix"] v
  let backend ← Record.field? fields "backend" readBackend? d.backend
  let url ← Record.field? fields "redis_url" Source.text? d.redisUrl
  let keyPrefix ← Record.field? fields "key_prefix" Source.text? d.keyPrefix
  return ⟨backend, url, keyPrefix⟩

/-- A configuration as a tree. -/
def toData (c : Config) : Data :=
  .record [("server", c.server.toData), ("auth", c.auth.toData),
    ("rate_limit", c.rateLimit.toData), ("storage", c.storage.toData),
    ("routes", .list (c.routes.map Route.toData))]

/-- Reads a configuration. -/
def read? (v : σ) : Option Config := do
  let fields ← Record.open? ["server", "auth", "rate_limit", "storage", "routes"] v
  let server ← Record.field? fields "server" Server.read? {}
  let auth ← Record.field? fields "auth" Auth.read? {}
  let rateLimit ← Record.field? fields "rate_limit" RateLimit.read? {}
  let storage ← Record.field? fields "storage" Storage.read? {}
  let routes ← Record.field? fields "routes" (Record.list? Route.read?) []
  return ⟨server, auth, rateLimit, storage, routes⟩

end Turnstile.Config
