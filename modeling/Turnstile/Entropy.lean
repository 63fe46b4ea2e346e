import Turnstile.Failure
import Turnstile.Text.Base64

/-!
# Randomness

A source of random bytes is given by the bytes it yields: every draw starts at the first of them
and goes round as often as needed. A source without bytes is broken, and only a draw of nothing
succeeds with it.

## Main definitions

- `Entropy.draw` — a number of random bytes
- `Entropy.newSecret` — a fresh signing secret as text
-/

namespace Turnstile

/-- A source of random bytes. -/
structure Entropy where
  bytes : Bytes
deriving DecidableEq, Repr

namespace Entropy

/-- The source that yields nothing. -/
def broken : Entropy := ⟨[]⟩

/-- The first `n` bytes of the source repeated without end; `[]` if it has none. -/
def cycle (bs : Bytes) (n : Nat) : Bytes :=
  (List.replicate (n / bs.length + 1) bs).flatten.take n

/-- Draws `n` random bytes. -/
def draw (source : Entropy) (n : Nat) : Except Failure Bytes :=
  if n = 0 then .ok []
  else if source.bytes = [] then .error (.entropy "no random bytes")
  else .ok (cycle source.bytes n)

/-- A fresh signing secret: 48 random bytes in base64. -/
def newSecret (source : Entropy) : Except Failure String := do
  return String.ofList (Base64.encode (← source.draw 48))

/-- A draw has the length asked for. -/
theorem length_of_draw {source : Entropy} {n : Nat} {bs : Bytes} (h : source.draw n = .ok bs) :
    bs.length = n := by
  unfold draw at h
  split at h
  · cases h
    simp_all
  · split at h
    · cases h
    · rename_i hn hb
      cases h
      have hpos : 0 < source.bytes.length := List.length_pos_iff.2 hb
      have hlt := Nat.lt_div_mul_add (a := n) hpos
      simp only [cycle, List.length_take, List.length_flatten, List.map_replicate,
        List.sum_replicate_nat]
      have : n ≤ (n / source.bytes.length + 1) * source.bytes.length := by
        rw [Nat.add_mul]
        omega
      omega

end Entropy

end Turnstile
