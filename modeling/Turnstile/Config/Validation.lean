import Turnstile.Config.Basic

/-!
# Validation

The rules that a configuration has to keep before it is served. Sections are looked at in order and
the first broken rule is reported.

## Main definitions

- `Config.validate` — the first broken rule of a configuration, if any
- `Config.Server.validate`, `Config.Auth.validate`, `Config.RateLimit.validate`,
  `Config.Storage.validate`, `Config.validateRoute` — the rules of the sections
-/

namespace Turnstile.Config

/-- The greatest number that 64 bits hold. -/
def greatest64 : Nat := Nat.pow 2 64 - 1

/-- A number brought down into 64 bits. -/
def saturate64 (n : Nat) : Nat := min n greatest64

/-- Reports a rule if it is broken. -/
def refuseIf (broken : Bool) (rule : Invalid) : Except Invalid Unit :=
  if broken then .error rule else .ok ()

/-- The rules for where to listen. -/
def Server.validate (s : Server) : Except Invalid Unit := do
  refuseIf (s.host = "") .emptyHost
  refuseIf (s.port = 0) .zeroPort
  refuseIf (s.workers = some 0) .zeroWorkers
  refuseIf (s.workers.any (· > 1000)) .manyWorkers

/-- Whether a character may stand in the name of a token header. -/
def isHeaderChar (c : Char) : Bool :=
  c.isAlphanum || c = '-' || c = '_'

/-- The rules for the name of a token header. -/
def validateHeader (header : TokenHeader) (value : String) : Except Invalid Unit := do
  refuseIf (value = "") (.emptyHeader header)
  refuseIf (!value.toList.all isHeaderChar) (.malformedHeader header value)

/-- Whether two names differ at most in the case of ASCII letters. -/
def sameName (s t : String) : Bool :=
  s.toList.map Char.toLower = t.toList.map Char.toLower

/-- The rules for secret and names. -/
def Auth.validate (a : Auth) : Except Invalid Unit := do
  validateHeader .api a.apiTokenHeader
  validateHeader .user a.userTokenHeader
  refuseIf (sameName a.apiTokenHeader a.userTokenHeader) .sameHeaders
  refuseIf (a.userParam = "") .emptyUserParam
  refuseIf (a.userTokenTtlSecs = 0) .zeroUserTokenTtl

/-- The budget in milliseconds that a bucket regains before it can be swept. -/
def RateLimit.refillBeforeSweep (r : RateLimit) : Nat :=
  let staleAfterMs := saturate64 (r.staleAfterSecs.toNat * 1000)
  saturate64 (staleAfterMs / r.intervalMs.toNat * r.perIntervalMs.toNat)

/-- The rules for limiting. A bucket that was swept comes back full, so it has to have been able to
refill before. -/
def RateLimit.validate (r : RateLimit) : Except Invalid Unit := do
  refuseIf (r.capacityMs = 0) .zeroCapacity
  refuseIf (r.intervalMs = 0) .zeroInterval
  refuseIf (r.perIntervalMs = 0) .zeroPerInterval
  refuseIf (r.tokenTimeoutSecs = some 0) .zeroTokenTimeout
  refuseIf (r.cleanIntervalSecs = 0) .zeroCleanInterval
  refuseIf (r.refillBeforeSweep < r.capacityMs.toNat) .earlySweep

/-- The rules for storage: buckets in Redis are not available. -/
def Storage.validate (s : Storage) : Except Invalid Unit :=
  refuseIf (s.backend = .redis) .redisUnavailable

/-- The rules for one route. -/
def validateRoute (r : Route) : Except Invalid Unit := do
  refuseIf (r.pattern.toList.head? ≠ some '/') (.relativePattern r.pattern)
  refuseIf (r.policy.byAddress && r.policy.tokenFree) (.contradictoryPolicy r.pattern)

/-- The rules for a list of routes after others with the patterns `seen`: no pattern comes twice. -/
def validateRoutes (seen : List String) : List Route → Except Invalid Unit
  | [] => .ok ()
  | r :: rest => do
    validateRoute r
    refuseIf (seen.contains r.pattern) (.duplicatePattern r.pattern)
    validateRoutes (r.pattern :: seen) rest

/-- The first broken rule of a configuration, if any. -/
def validate (c : Config) : Except Invalid Unit := do
  c.server.validate
  c.auth.validate
  c.rateLimit.validate
  c.storage.validate
  validateRoutes [] c.routes

/-- A configuration that keeps all rules, or the failure that reports the first broken one. -/
def validated (c : Config) : Except Failure Config :=
  match c.validate with
  | .ok () => .ok c
  | .error rule => .error (.config (.invalid rule))

end Turnstile.Config
