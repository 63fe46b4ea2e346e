import Turnstile.Proofs.Limiter.Bound

/-!
# Ticks and refills

The number of ticks since an instant falls as the instant moves on, and by no more than one while it
moves on by less than a tick. Refills grow with the number of ticks, and one tick more is worth no
more than the refill for one tick.

## Main definitions

- `Limiter.tickLength` — the length of a tick as it is counted

## Main statements

- `Limiter.ticksSince_le_ticksSince`, `Limiter.ticksSince_le_succ` — counting from different
  instants
- `Limiter.refill_mono`, `Limiter.refill_succ_le` — refills for different numbers of ticks
- `Limiter.refilled_of_ticks`, `Limiter.refilled_of_no_tick` — the two things that a check can do
-/

namespace Turnstile.Limiter

/-- The length of a tick as it is counted: one of no length counts as one nanosecond. -/
def tickLength (settings : LimiterSettings) : Span :=
  max settings.interval 1

variable {settings : LimiterSettings} {since other now : Instant} {b : Bucket}

theorem tickLength_pos (settings : LimiterSettings) : 0 < tickLength settings :=
  Nat.le_max_right _ _

theorem ticksSince_le_maxTicks : ticksSince settings since now ≤ maxTicks :=
  Nat.min_le_right _ _

theorem toNat_sub_le_add {a b c : Int} {n : Nat} (hlt : b < a + n) :
    (c - a).toNat ≤ (c - b).toNat + n := by
  omega

theorem lt_add_of_toNat_sub_lt {a c : Int} {n : Nat} (hlt : (c - a).toNat < n) : c < a + n := by
  omega

theorem min_le_min_add_one {a b m : Nat} (h : a ≤ b + 1) : min a m ≤ min b m + 1 := by
  omega

theorem ticksSince_le_ticksSince (order : since ≤ other) :
    ticksSince settings other now ≤ ticksSince settings since now := by
  have helapsed : Instant.elapsed other now ≤ Instant.elapsed since now :=
    Int.toNat_le_toNat (Int.sub_le_sub_left order now)
  have hticks : Instant.elapsed other now / tickLength settings ≤
      Instant.elapsed since now / tickLength settings := Nat.div_le_div_right helapsed
  exact Nat.le_min.2 ⟨Nat.le_trans (Nat.min_le_left _ _) hticks, Nat.min_le_right _ _⟩

/-- Counted from less than a tick earlier, there is at most one tick more. -/
theorem ticksSince_le_succ (phase : other < since + tickLength settings) :
    ticksSince settings since now ≤ ticksSince settings other now + 1 := by
  have helapsed : Instant.elapsed since now ≤ Instant.elapsed other now + tickLength settings :=
    toNat_sub_le_add phase
  have hticks : Instant.elapsed since now / tickLength settings ≤
      Instant.elapsed other now / tickLength settings + 1 := by
    rw [← Nat.add_div_right _ (tickLength_pos settings)]
    exact Nat.div_le_div_right helapsed
  exact min_le_min_add_one hticks

/-- While no tick has passed, less than the length of a tick has. -/
theorem lt_add_tickLength (hticks : ticksSince settings since now = 0) :
    now < since + tickLength settings := by
  have hmax : maxTicks ≠ 0 := by decide
  have hdiv : Instant.elapsed since now / tickLength settings = 0 :=
    (Nat.min_eq_zero_iff.1 hticks).resolve_right hmax
  have hlt : Instant.elapsed since now < tickLength settings :=
    (Nat.div_eq_zero_iff_lt (tickLength_pos settings)).1 hdiv
  exact lt_add_of_toNat_sub_lt hlt

/-! ### Refills -/

theorem refill_nonneg (settings : LimiterSettings) (ticks : Nat) : 0 ≤ refill settings ticks :=
  Budget.ofSpan_nonneg _

theorem refill_mono {m n : Nat} (h : m ≤ n) : refill settings m ≤ refill settings n :=
  Budget.ofSpan_mono (Nat.mul_le_mul_left settings.perInterval h)

/-- One tick more is worth no more than the refill for one tick, as both are held in 64 bits. -/
theorem refill_succ_le (ticks : Nat) :
    refill settings (ticks + 1) ≤ refill settings ticks + refill settings 1 := by
  have hspan := Nat.mul_add settings.perInterval ticks 1
  have hgreatest : 0 ≤ Budget.greatest := by decide
  unfold refill Budget.ofSpan
  omega

/-! ### Checks -/

theorem toppedUp_eq (bucket : Option Bucket) (hleast : Budget.least ≤ (bucket.map (·.value)).getD 0)
    (ticks : Nat) :
    toppedUp settings bucket ticks now =
      ⟨min (Budget.ofSpan settings.capacity)
        ((bucket.map (·.value)).getD 0 + refill settings ticks), now⟩ := by
  have hvalue : (toppedUp settings bucket ticks now).value = _ := value_toppedUp bucket hleast ticks
  rw [← hvalue]
  rfl

theorem refilled_of_no_tick (hticks : ticksSince settings b.lastModified now = 0) :
    refilled settings (some b) now = b :=
  if_pos hticks

theorem refilled_of_ticks (hticks : ticksSince settings b.lastModified now ≠ 0)
    (hleast : Budget.least ≤ b.value) :
    refilled settings (some b) now =
      ⟨min (Budget.ofSpan settings.capacity)
        (b.value + refill settings (ticksSince settings b.lastModified now)), now⟩ :=
  (if_neg hticks).trans (toppedUp_eq (some b) hleast _)

theorem refilled_none (settings : LimiterSettings) (now : Instant) :
    refilled settings none now =
      ⟨min (Budget.ofSpan settings.capacity) (refill settings maxTicks), now⟩ := by
  have hleast : Budget.least ≤ ((none : Option Bucket).map (·.value)).getD 0 := by decide
  rw [refilled, toppedUp_eq none hleast, Option.map_none, Option.getD_none, Int.zero_add]

end Turnstile.Limiter
