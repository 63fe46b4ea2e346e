import Turnstile.Limiter.Basic

/-!
# Regular sweeps

A regular sweep is due at every multiple of its period after it was started, by a clock that never
goes back. When that clock has moved on past several of these times, one sweep does for all.

## Main definitions

- `Sweep` — when a regular sweep was started, its period and the age it sweeps at
- `Sweep.isDue` — whether a move of the clock reaches a time at which the sweep is due
- `Sweep.runAll` — the sweeps that a move of the clock brings about
-/

namespace Turnstile

/-- A regular sweep, started at a reading of the clock that never goes back. -/
structure Sweep where
  started : Nat
  every : Span
  staleAfter : Span
deriving DecidableEq, Repr

namespace Sweep

/-- The number of times that a sweep has been due up to a reading of the clock; a sweep without a
period is never due. -/
def timesDue (s : Sweep) (reading : Nat) : Nat :=
  (reading - s.started) / s.every

/-- Whether a sweep becomes due while the clock moves between two readings. -/
def isDue (s : Sweep) (before after : Nat) : Bool :=
  s.timesDue before < s.timesDue after

/-- Runs every sweep that became due, at the instant that the wall clock then shows. -/
def runAll (sweeps : List Sweep) (before after : Nat) (now : Instant) (store : Store) :
    Except Failure Store :=
  (sweeps.filter (·.isDue before after)).foldlM
    (fun store s => Limiter.cleanup store s.staleAfter now) store

end Sweep

end Turnstile
