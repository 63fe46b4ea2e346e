import Turnstile.Limiter.Store
import Turnstile.Token.Quota

/-!
# The time-debt rate limiter

A subject pays for the time that its requests take. Its bucket is refilled tick by tick up to a
capacity, and it may use the gateway while its budget is positive. A subject that has no bucket yet
is refilled as if ticks without end had passed.

A check is made of two steps on the store: reading when the bucket was last written, which fixes the
number of ticks to refill for, and then the refill, or just a look at the budget if no tick has
passed.

## Main definitions

- `LimiterSettings` — capacity, tick, refill per tick, greatest age of a token
- `Verdict` — the outcome of a check
- `Limiter.readTicks`, `Limiter.applyTicks` — the two steps
- `Limiter.checkSubject`, `Limiter.checkToken` — checking a subject, or a token that is one
- `Limiter.useTime` — charging a subject
- `Limiter.cleanup` — sweeping, with failures passed over
-/

namespace Turnstile

/-- The tuning of a limiter. -/
structure LimiterSettings where
  /-- The largest budget that refills lead to. -/
  capacity : Span := Span.ofSeconds 30
  /-- The length of a tick. -/
  interval : Span := Span.ofSeconds 5
  /-- The budget that one tick adds. -/
  perInterval : Span := Span.ofSeconds 5
  /-- The greatest age of a quota token, if there is one. -/
  tokenTimeout : Option Span := none
deriving DecidableEq, Repr

/-- The outcome of a check. -/
inductive Verdict where
  | success
  | tokenInvalid
  | tokenExpired
  | rateLimited
deriving DecidableEq, Repr

namespace Verdict

/-- The name of an outcome. -/
def name : Verdict → String
  | .success => "Success"
  | .tokenInvalid => "TokenInvalid"
  | .tokenExpired => "TokenExpired"
  | .rateLimited => "RateLimited"

/-- The outcome for what is left in a bucket. -/
def ofRemaining (remaining : Int) : Verdict :=
  if remaining ≤ 0 then .rateLimited else .success

end Verdict

namespace Limiter

/-- The most ticks that a bucket is ever refilled for at once. -/
def maxTicks : Nat := Nat.pow 2 32 - 1

/-- The ticks that have passed at `now` since an instant. A tick of no length counts as one
nanosecond. -/
def ticksSince (settings : LimiterSettings) (since now : Instant) : Nat :=
  min (Instant.elapsed since now / max settings.interval 1) maxTicks

/-- The budget that a number of ticks adds. -/
def refill (settings : LimiterSettings) (ticks : Nat) : Int :=
  Budget.ofSpan (settings.perInterval * ticks)

/-- The first step of a check: the ticks to refill a subject for. -/
def readTicks (settings : LimiterSettings) (store : Store) (subject : String) (now : Instant) :
    Except Failure Nat := do
  match ← store.lastModified? subject with
  | none => return maxTicks
  | some since => return ticksSince settings since (← readClock now)

/-- The second step of a check: what is left for a subject after a refill for some ticks. Without
any tick the bucket is not written. -/
def applyTicks (settings : LimiterSettings) (store : Store) (subject : String) (ticks : Nat)
    (now : Instant) : Except Failure (Int × Store) := do
  if ticks > 0 then
    let ((remaining, _), store) ←
      store.addCapped subject (refill settings ticks) (Budget.ofSpan settings.capacity) now
    return (remaining, store)
  else
    return (← store.value subject, store)

/-- Whether a subject has budget left, after a refill for the ticks that have passed. -/
def checkSubject (settings : LimiterSettings) (store : Store) (subject : String) (now : Instant) :
    Except Failure (Verdict × Store) := do
  let ticks ← readTicks settings store subject now
  let (remaining, store) ← applyTicks settings store subject ticks now
  return (Verdict.ofRemaining remaining, store)

/-- Whether a token with these claims is too old at `now`. -/
def isExpired (settings : LimiterSettings) (claims : QuotaClaims) (now : Instant) :
    Except Failure Bool :=
  match settings.tokenTimeout with
  | none => .ok false
  | some timeout => do return timeout < claims.age (← readClock now)

/-- Whether a quota token may be used. Its bucket is looked at only after the token has been
verified, so a token that is not authentic never gets one. -/
def checkToken (settings : LimiterSettings) (signer : Signer) (store : Store) (token : String)
    (now : Instant) : Except Failure (Verdict × Store) := do
  match ← QuotaClaims.parse signer token now with
  | none => return (.tokenInvalid, store)
  | some claims =>
    if ← isExpired settings claims now then return (.tokenExpired, store)
    else checkSubject settings store token now

/-- Charges a subject for a length of time. -/
def useTime (store : Store) (subject : String) (consumed : Span) (now : Instant) :
    Except Failure (Int × Store) :=
  store.charge subject (Budget.ofSpan consumed) now

/-- Sweeps a store. A sweep that fails leaves the store as it is, and nobody is told. -/
def cleanup (store : Store) (staleAfter : Span) (now : Instant) : Except Failure Store :=
  match store.clean staleAfter now with
  | .ok swept => .ok swept
  | .error .halted => .error .halted
  | .error _ => .ok store

/-- The first characters of a subject, which may be shown where the whole may not. -/
def redact (subject : String) : String :=
  String.ofList (subject.toList.take 8)

end Limiter

/-- The outline of limiter settings. -/
def LimiterSettings.outline (s : LimiterSettings) : Outline :=
  .record "RateLimiterSettings" [("capacity", .plain s.capacity.words),
    ("interval", .plain s.interval.words), ("per_interval", .plain s.perInterval.words),
    ("token_timeout", Outline.option (fun t => .plain t.words) s.tokenTimeout)]

/-- The outline of a limiter over a store. -/
def Limiter.outline (settings : LimiterSettings) (store : Store) : Outline :=
  .record "RateLimiter" [("settings", settings.outline), ("store", .quoted store.name)]

end Turnstile
