import Turnstile.Proofs.Limiter.Sweep

/-!
# What a new subject begins with

A subject without a bucket is refilled as if ticks without end had passed, but no more than
`2 ^ 32 - 1` ticks are ever counted. Validation compares the capacity with the ticks of the age at
which buckets are swept, and does not bound their number. So there are settings that it accepts and
under which a new subject is let through with a bucket that is not full.

## Main statements

- `Limiter.checkSubject_of_unseen` — what a check of a subject without a bucket answers and writes
- `Limiter.newcomer_full_iff` — the settings under which new subjects start full
-/

namespace Turnstile.Limiter

open Config (RateLimit)

variable {r : RateLimit} {settings : LimiterSettings} {store : Store} {subject : String}
  {now : Instant}

/-- A subject without a bucket gets what the most ticks are worth, as far as the capacity goes. -/
theorem checkSubject_of_unseen (sound : store.health = .sound)
    (unseen : store.buckets.find? subject = none) (hnow : now ≤ Instant.last) :
    checkSubject settings store subject now =
      .ok (Verdict.ofRemaining (min (Budget.ofSpan settings.capacity) (refill settings maxTicks)),
        { store with
          buckets := store.buckets.set subject
            ⟨min (Budget.ofSpan settings.capacity) (refill settings maxTicks), now⟩ }) := by
  rw [checkSubject_of_sound sound hnow, unseen, refilled_none]

/-- In milliseconds: the capacity is within the worth of the most ticks, or both are more than 64
bits hold. -/
theorem min_eq_left_iff {capacity perInterval : Nat} :
    min (min ((capacity * 1000000 : Nat) : Int) 9223372036854775807)
        (min ((perInterval * 1000000 * 4294967295 : Nat) : Int) 9223372036854775807) =
        min ((capacity * 1000000 : Nat) : Int) 9223372036854775807 ↔
      capacity ≤ perInterval * 4294967295 ∨ 2148 ≤ perInterval := by
  omega

theorem full_iff (r : RateLimit) :
    min (Budget.ofSpan r.settings.capacity) (refill r.settings maxTicks) =
      Budget.ofSpan r.settings.capacity ↔
      r.capacityMs.toNat ≤ r.perIntervalMs.toNat * 4294967295 ∨ 2148 ≤ r.perIntervalMs.toNat :=
  min_eq_left_iff

/-- **New subjects start full, unless the capacity is out of reach.** Take settings that validation
accepts, and a sound store in which a subject has no bucket. On a clock that can be read, a check of
the subject succeeds. It writes the bucket of the subject and no other, as of now, with the worth of
the most ticks that are ever counted, as far as the capacity goes. That is the capacity, cut off at
64 bits, exactly if these ticks are worth the capacity or more than 64 bits hold, which they are
from a refill of 2148 milliseconds on. -/
theorem newcomer_full_iff (r : RateLimit) (accepted : r.validate = .ok ()) (store : Store)
    (sound : store.health = .sound) (subject : String) (unseen : store.buckets.find? subject = none)
    (now : Instant) (readable : now ≤ Instant.last) :
    ∃ after, checkSubject r.settings store subject now = .ok (.success, after) ∧
      (∀ key, key ≠ subject → after.buckets.find? key = store.buckets.find? key) ∧
      after.buckets.find? subject =
        some ⟨min (Budget.ofSpan r.settings.capacity)
          (Budget.ofSpan (r.settings.perInterval * maxTicks)), now⟩ ∧
      (after.buckets.find? subject = some ⟨Budget.ofSpan r.settings.capacity, now⟩ ↔
        r.capacityMs.toNat ≤ r.perIntervalMs.toNat * 4294967295 ∨
        2148 ≤ r.perIntervalMs.toNat) := by
  have hpos : 0 < min (Budget.ofSpan r.settings.capacity) (refill r.settings maxTicks) := by
    rw [← value_refilled_none r.settings now]
    exact value_refilled_none_pos accepted now
  rw [checkSubject_of_unseen sound unseen readable, ofRemaining_eq_success_iff.2 hpos]
  refine ⟨_, rfl, fun key hkey => ?_, ?_, ?_⟩
  · rw [Buckets.find?_set, if_neg hkey]
  · rw [Buckets.find?_set, if_pos rfl]
    rfl
  · rw [Buckets.find?_set, if_pos rfl, ← full_iff r]
    simp only [Option.some.injEq, Bucket.mk.injEq, and_true]

/-- The settings that everything has by default are such. -/
theorem newcomer_full_by_default :
    ({} : RateLimit).validate = .ok () ∧
      ∃ after, checkSubject ({} : RateLimit).settings Store.empty "a" 7 = .ok (.success, after) ∧
        after.buckets.find? "a" = some ⟨30000000000, 7⟩ := by
  have hvalid : ({} : RateLimit).validate = .ok () := by decide
  obtain ⟨after, hcheck, -, -, hfull⟩ :=
    newcomer_full_iff {} hvalid Store.empty rfl "a" rfl 7 (by decide)
  have hcapacity : Budget.ofSpan ({} : RateLimit).settings.capacity = 30000000000 := by
    decide +kernel
  refine ⟨hvalid, after, hcheck, ?_⟩
  rw [hfull.2 (Or.inr (by decide +kernel)), hcapacity]

/-- A capacity that is worth one tick more than are ever counted. -/
def unreachable : RateLimit :=
  { capacityMs := 4294967296, intervalMs := 1, perIntervalMs := 1, staleAfterSecs := 4294968 }

/-- Although validation accepts it, a new subject begins with one millisecond less. -/
theorem newcomer_not_full :
    unreachable.validate = .ok () ∧ Budget.ofSpan unreachable.settings.capacity = 4294967296000000 ∧
      ∃ after, checkSubject unreachable.settings Store.empty "a" 0 = .ok (.success, after) ∧
        after.buckets.find? "a" = some ⟨4294967295000000, 0⟩ := by
  have hworth : min (Budget.ofSpan unreachable.settings.capacity)
      (refill unreachable.settings maxTicks) =
      4294967295000000 := by decide +kernel
  refine ⟨by decide, by decide, ?_⟩
  rw [checkSubject_of_unseen rfl rfl (by decide), hworth]
  exact ⟨_, rfl, rfl⟩

end Turnstile.Limiter
