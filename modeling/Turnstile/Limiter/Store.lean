import Turnstile.Failure
import Turnstile.Limiter.Buckets

/-!
# The bucket store

A store answers five operations on its buckets. In a flaky store any of them can be out of order,
and then it fails without having done anything. Operations that write a bucket, and the sweep, read
the clock.

An operation that fails leaves no store behind, which says that the store is as it was.

## Main definitions

- `Store.Operation`, `Store.Health` — the five operations, and which of them are out of order
- `Store` — buckets and the health of their store
- `Store.addCapped`, `Store.charge`, `Store.value`, `Store.lastModified?`, `Store.clean`
-/

namespace Turnstile

/-- What a store can be asked to do. -/
inductive Store.Operation where
  | addCapped
  | charge
  | value
  | lastModified
  | clean
deriving DecidableEq, Repr

/-- Whether a store can be relied on, and if not, which operations are out of order. -/
inductive Store.Health where
  | sound
  | flaky (faults : List Store.Operation)
deriving DecidableEq, Repr

/-- Buckets and the health of their store. -/
structure Store where
  health : Store.Health := .sound
  buckets : Buckets

namespace Store

/-- A store without buckets in which everything works. -/
def empty : Store := ⟨.sound, Buckets.empty⟩

/-- The name under which a store is reported. -/
def name (s : Store) : String :=
  match s.health with
  | .sound => "memory"
  | .flaky _ => "flaky"

/-- The operations that are out of order. -/
def Health.faults : Health → List Operation
  | .sound => []
  | .flaky faults => faults

/-- Fails if an operation is out of order. -/
def require (s : Store) (op : Operation) : Except Failure Unit :=
  if op ∈ s.health.faults then .error (.storage .down) else .ok ()

/-- Adds to the budget of a key, up to a cap. -/
def addCapped (s : Store) (key : String) (amount cap : Int) (now : Instant) :
    Except Failure ((Int × Bool) × Store) := do
  s.require .addCapped
  let now ← readClock now
  let (next, bs) := s.buckets.addCapped key amount cap now
  return (next, { s with buckets := bs })

/-- Takes from the budget of a key. -/
def charge (s : Store) (key : String) (amount : Int) (now : Instant) :
    Except Failure (Int × Store) := do
  s.require .charge
  let now ← readClock now
  let (next, bs) := s.buckets.charge key amount now
  return (next, { s with buckets := bs })

/-- The budget of a key. -/
def value (s : Store) (key : String) : Except Failure Int := do
  s.require .value
  return s.buckets.value key

/-- When the bucket of a key was last written. -/
def lastModified? (s : Store) (key : String) : Except Failure (Option Instant) := do
  s.require .lastModified
  return s.buckets.lastModified? key

/-- The instant before which a bucket is stale. An age that no clock can be moved by is refused, and
a threshold that the calendar does not have stops everything. -/
def threshold (staleAfter : Span) (now : Instant) : Except Failure Instant := do
  if Span.longest < staleAfter then throw (.storage .sweepAge)
  let now ← readClock now
  let t := now - (staleAfter : Int)
  if Instant.first ≤ t then return t else throw .halted

/-- Removes the buckets that were not written for a given time. -/
def clean (s : Store) (staleAfter : Span) (now : Instant) : Except Failure Store := do
  s.require .clean
  let t ← threshold staleAfter now
  return { s with buckets := s.buckets.sweep t }

end Store

end Turnstile
