import Turnstile.Calendar.Instant
import Turnstile.Text.Digits

/-!
# Lengths of time in words

A length of time is written in the largest of the units second, millisecond, microsecond and
nanosecond that it fills, with a fraction that has no trailing zeros.

## Main definitions

- `Span.words` — the written form
- `Span.longest` — the longest step a clock can be moved by
-/

namespace Turnstile.Span

/-- The longest step a clock can be moved by: `2 ^ 63 - 1` milliseconds. -/
def longest : Span := 9223372036854775807 * millisecond

/-- A length from whole seconds. -/
def ofSeconds (n : Nat) : Span := n * second

/-- A length from whole milliseconds. -/
def ofMillis (n : Nat) : Span := n * millisecond

/-- Drops the zeros at the end. -/
def dropZeros (cs : List Char) : List Char :=
  (cs.reverse.dropWhile (· = '0')).reverse

/-- Whole units and what is left of the span, as a decimal fraction with at most `places` digits. -/
def decimal (span : Span) (places : Nat) : List Char :=
  let unit := Nat.pow 10 places
  let fraction := dropZeros (Text.padded places (span % unit))
  Nat.toDigits 10 (span / unit) ++ if fraction = [] then [] else '.' :: fraction

/-- A length of time in its largest filled unit. -/
def words (span : Span) : String :=
  if second ≤ span then String.ofList (decimal span 9) ++ "s"
  else if 1000000 ≤ span then String.ofList (decimal span 6) ++ "ms"
  else if 1000 ≤ span then String.ofList (decimal span 3) ++ "µs"
  else String.ofList (Nat.toDigits 10 span) ++ "ns"

end Turnstile.Span
