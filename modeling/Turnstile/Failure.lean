import Turnstile.Calendar.Span
import Turnstile.Config.Fault

/-!
# Failures

Every way in which the gateway can fail, as a cause with its wording. Seven causes are rejections:
they are the caller's to mend, and their wording is shown to the caller. All others are hidden from
callers behind one fixed line.

## Main definitions

- `Failure` — the cause of a failure
- `Failure.message` — its wording
- `Failure.status`, `Failure.clientMessage` — what a caller gets to see
-/

namespace Turnstile

/-- Why the bucket store did not do what it was asked. -/
inductive StorageFault where
  | down
  | sweepAge
  | other (text : String)
deriving DecidableEq, Repr

/-- The wording of a store's fault. -/
def StorageFault.message : StorageFault → String
  | .down => "backend down"
  | .sweepAge =>
    "Invalid sweep age: Source duration value is out of range for the target type"
  | .other text => text

/-- Why the gateway itself could not go on. -/
inductive InternalFault where
  | lifetimeTooLong (ttl : Span)
  | lifetimePastCalendar
  | neverExpires
  | schemeMissing
  | other (text : String)
deriving DecidableEq, Repr

/-- The wording of an internal fault. -/
def InternalFault.message : InternalFault → String
  | .lifetimeTooLong ttl => "TTL out of range: " ++ ttl.words
  | .lifetimePastCalendar => "TTL overflows the clock"
  | .neverExpires => "Expiry encodes as never expiring"
  | .schemeMissing => "Bad rewritten URI: scheme missing"
  | .other text => text

/-- The cause of a failure. `halted` means that the clock stands where it cannot be read: nothing
can be answered any more. -/
inductive Failure where
  | secretNotSet
  | tokenMissing
  | tokenInvalid
  | tokenExpired
  | rateLimited
  | userTokenMissing
  | userTokenInvalid
  | config (fault : Config.Fault)
  | storage (fault : StorageFault)
  | entropy (text : String)
  | serialization
  | yaml
  | io (text : String)
  | internal (fault : InternalFault)
  | halted
deriving DecidableEq, Repr

namespace Failure

/-- The wording of a failure; what readers of JSON and YAML say is not kept. -/
def message : Failure → String
  | .secretNotSet => "secret not set on server"
  | .tokenMissing => "api token missing"
  | .tokenInvalid => "api token invalid"
  | .tokenExpired => "api token expired"
  | .rateLimited => "rate limited"
  | .userTokenMissing => "user token missing"
  | .userTokenInvalid => "user token invalid"
  | .config fault => "Configuration error: " ++ fault.message
  | .storage fault => "Storage error: " ++ fault.message
  | .entropy text => "Entropy source failure: " ++ text
  | .serialization => "Serialization error"
  | .yaml => "YAML error"
  | .io text => "IO error: " ++ text
  | .internal fault => "Internal server error: " ++ fault.message
  | .halted => "halted"

/-- Whether the caller can mend it. -/
def isRejection : Failure → Bool
  | .secretNotSet | .tokenMissing | .tokenInvalid | .tokenExpired | .rateLimited
  | .userTokenMissing | .userTokenInvalid => true
  | _ => false

/-- Whether the gateway should not go on serving. -/
def isFatal : Failure → Bool
  | .entropy _ => true
  | _ => false

/-- The line shown to a caller. -/
def clientMessage (f : Failure) : String :=
  if f.isRejection then f.message else "unknown problem"

/-- The HTTP status of a failure. -/
def status : Failure → Nat
  | .tokenMissing | .tokenInvalid | .tokenExpired | .userTokenMissing | .userTokenInvalid => 400
  | .rateLimited => 420
  | _ => 500

/-- The body of the response to a failed request. -/
def body (f : Failure) : String :=
  f.clientMessage ++ "\n"

end Failure

/-- Reads the clock: fails where the calendar has no such instant. -/
def readClock (now : Instant) : Except Failure Instant :=
  if now ≤ Instant.last then .ok now else .error .halted

/-- A clock that the calendar has can be read. -/
theorem readClock_of_le {now : Instant} (hnow : now ≤ Instant.last) : readClock now = .ok now :=
  if_pos hnow

/-- A clock past the calendar cannot be read. -/
theorem readClock_of_lt {now : Instant} (hnow : Instant.last < now) :
    readClock now = .error .halted :=
  if_neg (Int.not_le.2 hnow)

/-- Reading the clock fails in no other way. -/
theorem eq_halted_of_readClock {now : Instant} {e : Failure} (h : readClock now = .error e) :
    e = .halted := by
  unfold readClock at h
  split at h
  · cases h
  · exact (Except.error.inj h).symm

theorem lt_of_readClock {now : Instant} {e : Failure} (h : readClock now = .error e) :
    Instant.last < now := by
  refine Int.not_le.1 fun hnow => ?_
  rw [readClock_of_le hnow] at h
  cases h

/-- A computation that fails does so in its first part or in what follows it. -/
theorem eq_error_or_exists_of_bind_eq_error {α β : Type} {x : Except Failure α}
    {f : α → Except Failure β} {e : Failure} (h : (x >>= f) = .error e) :
    x = .error e ∨ ∃ a, x = .ok a ∧ f a = .error e := by
  cases x with
  | error e' =>
    obtain rfl := Except.error.inj h
    exact Or.inl rfl
  | ok a => exact Or.inr ⟨a, rfl, h⟩

/-- A computation that succeeds does so in its first part. -/
theorem exists_of_bind_eq_ok {α β : Type} {x : Except Failure α} {f : α → Except Failure β} {b : β}
    (h : (x >>= f) = .ok b) : ∃ a, x = .ok a ∧ f a = .ok b := by
  cases x with
  | error e => cases h
  | ok a => exact ⟨a, rfl, h⟩

end Turnstile
