import Turnstile.Limiter.Schedule

/-!
# The world of a gateway

What a running gateway depends on: a wall clock, which may be set, a clock that only goes on, a
source of randomness, the store of its buckets and the sweeps that go on in the background.

## Main definitions

- `World` — all of it
- `World.advance` — letting time pass
-/

namespace Turnstile

/-- What a running gateway depends on. -/
structure World where
  now : Instant
  reading : Nat := 0
  entropy : Entropy := Entropy.broken
  store : Store := Store.empty
  sweeps : List Sweep := []

namespace World

/-- Lets both clocks go on, and then runs the sweeps that have become due. -/
def advance (w : World) (span : Span) : Except Failure World := do
  let now := w.now + (span : Int)
  let reading := w.reading + span
  let store ← Sweep.runAll w.sweeps w.reading reading now w.store
  return { w with now := now, reading := reading, store := store }

end World

end Turnstile
