/-!
# Instants

A point in time is a number of nanoseconds since 1970-01-01 00:00:00 UTC, negative before it. The
calendar that timestamps are written in spans the years -262143 to 262142, and a clock that stands
outside it cannot be read.

## Main definitions

- `Instant`, `Span` — points in time and lengths of time, in nanoseconds
- `Instant.first`, `Instant.last` — the ends of the calendar
- `Instant.micros` — an instant in microseconds, rounded down
-/

namespace Turnstile

/-- A length of time in nanoseconds. -/
abbrev Span := Nat

/-- A point in time, in nanoseconds since 1970-01-01 00:00:00 UTC. -/
abbrev Instant := Int

namespace Span

/-- The nanoseconds of a second. -/
def second : Span := 1000000000

/-- The nanoseconds of a millisecond. -/
def millisecond : Span := 1000000

end Span

namespace Instant

/-- The first second of the calendar, at the start of the year -262143. -/
def firstSecond : Int := -8334601228800

/-- The last second of the calendar, at the end of the year 262142. -/
def lastSecond : Int := 8210266876799

/-- The first instant of the calendar. -/
def first : Instant := firstSecond * Span.second

/-- The last instant of the calendar. -/
def last : Instant := lastSecond * Span.second + (Span.second - 1)

/-- Whether the calendar has this instant. -/
def InCalendar (t : Instant) : Prop :=
  first ≤ t ∧ t ≤ last

instance (t : Instant) : Decidable (InCalendar t) := by
  unfold InCalendar
  infer_instance

/-- Whole microseconds, rounded toward the past. -/
def micros (t : Instant) : Int :=
  t / 1000

/-- The instant that many microseconds after 1970, if the calendar has it. -/
def ofMicros? (m : Int) : Option Instant :=
  if InCalendar (m * 1000) then some (m * 1000) else none

/-- The time from `since` to `t`, zero if `t` is not later. -/
def elapsed (since t : Instant) : Span :=
  (t - since).toNat

end Instant

end Turnstile
