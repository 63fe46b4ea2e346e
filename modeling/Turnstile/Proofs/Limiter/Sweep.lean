import Turnstile.Proofs.Config.Validation
import Turnstile.Proofs.Limiter.Pace
import Turnstile.Proofs.Limiter.Ticks

/-!
# Sweeps at the age that a configuration asks for

A subject whose bucket was swept begins anew with a full one. Validation only accepts an age by
which the ticks that have passed are worth the capacity, so a subject that was not in debt would
have no less without the sweep. How great the age may be is not validated: with an age that reaches
back before the calendar, but is not refused as one that no clock can be moved by, a sweep does not
end.

## Main statements

- `Limiter.sweep_never_enriches` — a subject that owes nothing gains nothing by a sweep
- `Limiter.cleanup_ends_iff` — the ages at which sweeps end
-/

namespace Turnstile.Limiter

open Config (RateLimit)

variable {r : RateLimit} {settings : LimiterSettings} {store swept : Store}
  {subject : String} {b : Bucket}
  {now later : Instant}

/-! ### What a bucket regains before it is swept -/

theorem le_elapsed {since t : Int} {n : Nat} (h : since + n ≤ t) : n ≤ (t - since).toNat := by
  omega

theorem ticksSince_of_idle (accepted : r.validate = .ok ())
    (idle : b.lastModified + (r.staleAfter : Int) ≤ later) :
    min (r.staleAfter / r.settings.interval) maxTicks ≤
      ticksSince r.settings b.lastModified later := by
  have htick : max r.settings.interval 1 = r.settings.interval :=
    Nat.max_eq_left (RateLimit.interval_pos accepted)
  have helapsed : r.staleAfter ≤ Instant.elapsed b.lastModified later := le_elapsed idle
  have hticks : r.staleAfter / r.settings.interval ≤
      Instant.elapsed b.lastModified later / r.settings.interval := Nat.div_le_div_right helapsed
  rw [ticksSince, htick]
  exact Nat.le_min.2 ⟨Nat.le_trans (Nat.min_le_left _ _) hticks, Nat.min_le_right _ _⟩

/-- A bucket that can be swept has regained what a new one begins with. -/
theorem regained_of_idle (accepted : r.validate = .ok ())
    (idle : b.lastModified + (r.staleAfter : Int) ≤ later) :
    min (Budget.ofSpan r.settings.capacity) (refill r.settings maxTicks) ≤
      refill r.settings (ticksSince r.settings b.lastModified later) := by
  have hticks := ticksSince_of_idle accepted idle
  rcases Nat.le_total (r.staleAfter / r.settings.interval) maxTicks with hcount | hcount
  · -- all ticks of the age are counted, and they are worth the capacity
    rw [Nat.min_eq_left hcount] at hticks
    calc min (Budget.ofSpan r.settings.capacity) (refill r.settings maxTicks)
        ≤ Budget.ofSpan r.settings.capacity := Int.min_le_left _ _
      _ ≤ refill r.settings (r.staleAfter / r.settings.interval) :=
          Budget.ofSpan_mono (RateLimit.capacity_le_of_validate accepted)
      _ ≤ refill r.settings (ticksSince r.settings b.lastModified later) := refill_mono hticks
  · rw [Nat.min_eq_right hcount] at hticks
    exact Int.le_trans (Int.min_le_right _ _) (refill_mono hticks)

theorem value_refilled_none_le (accepted : r.validate = .ok ()) (solvent : 0 ≤ b.value)
    (bounded : Bounded r.settings (some b)) (idle : b.lastModified + (r.staleAfter : Int) ≤ later) :
    (refilled r.settings none later).value ≤ (refilled r.settings (some b) later).value := by
  obtain ⟨hleast, hwithin⟩ := bounded b rfl
  have hregained := regained_of_idle accepted idle
  rw [value_refilled_none, value_refilled hleast hwithin]
  omega

theorem value_refilled_none_pos (accepted : r.validate = .ok ()) (now : Instant) :
    0 < (refilled r.settings none now).value := by
  have hcapacity := Budget.ofSpan_pos (RateLimit.capacity_pos accepted)
  have hrefill : 0 < refill r.settings maxTicks :=
    Budget.ofSpan_pos (Nat.mul_pos (RateLimit.perInterval_pos accepted) (by decide))
  rw [value_refilled_none]
  omega

/-- A new bucket is full if ticks without end are worth the capacity. -/
theorem value_refilled_none_of_le (h : settings.capacity ≤ settings.perInterval * maxTicks)
    (now : Instant) :
    (refilled settings none now).value = Budget.ofSpan settings.capacity := by
  have hrefill : Budget.ofSpan settings.capacity ≤ refill settings maxTicks := Budget.ofSpan_mono h
  rw [value_refilled_none, Int.min_eq_left hrefill]

/-! ### Sweeps of idle subjects -/

theorem find?_of_idle (sound : store.health = .sound) (hb : store.buckets.find? subject = some b)
    (stale : b.lastModified + (r.staleAfter : Int) < now) (hnow : now ≤ Instant.last)
    (hswept : cleanup store r.staleAfter now = .ok swept) :
    swept.health = .sound ∧
      (swept.buckets.find? subject = none ∨ Span.longest < r.staleAfter ∧ swept = store) := by
  rcases eq_or_find?_of_cleanup sound hnow hswept with ⟨hlong, rfl⟩ | ⟨-, hsound, hfind⟩
  · exact ⟨sound, Or.inr ⟨hlong, rfl⟩⟩
  · have hgone : ¬now - (r.staleAfter : Int) ≤ b.lastModified :=
      Int.not_le.2 (Int.lt_sub_right_of_add_lt stale)
    refine ⟨hsound, Or.inl ?_⟩
    simp [hfind, hb, Option.filter, hgone]

/-- **A sweep enriches nobody who owes nothing.** Take settings that validation accepts, and a
subject that owes nothing and whose bucket was last written longer ago than the age at which buckets
are swept. After a sweep that ends, the subject has no bucket, unless the age is one that is
refused. Whenever it is checked from then on, the check succeeds with the sweep and without it, and
leaves no more with the sweep than without. It leaves the same if as many ticks as are ever counted
are worth the capacity. -/
theorem sweep_never_enriches (r : RateLimit) (accepted : r.validate = .ok ()) (store swept : Store)
    (sound : store.health = .sound) (subject : String) (b : Bucket)
    (hb : store.buckets.find? subject = some b) (solvent : 0 ≤ b.value)
    (within : b.value ≤ Budget.ofSpan r.settings.capacity) (now later : Instant)
    (stale : b.lastModified + (r.staleAfter : Int) < now)
    (hswept : cleanup store r.staleAfter now = .ok swept) (order : now ≤ later)
    (readable : later ≤ Instant.last) :
    (r.staleAfter ≤ Span.longest → swept.buckets.find? subject = none) ∧
      ∃ fresh kept, checkSubject r.settings swept subject later = .ok (.success, fresh) ∧
        checkSubject r.settings store subject later = .ok (.success, kept) ∧
        fresh.buckets.value subject ≤ kept.buckets.value subject ∧
        (r.settings.capacity ≤ r.settings.perInterval * maxTicks →
          fresh.buckets.value subject = kept.buckets.value subject) := by
  have idle : b.lastModified + (r.staleAfter : Int) ≤ later :=
    Int.le_trans (Int.le_of_lt stale) order
  have hbounded : Bounded r.settings (some b) := by
    rintro _ ⟨⟩
    exact ⟨Int.le_trans (by decide) solvent, within⟩
  have hfilled : Bounded r.settings (some (refilled r.settings (some b) later)) :=
    bounded_refilled hbounded
  have hless := value_refilled_none_le accepted solvent hbounded idle
  have hpos := value_refilled_none_pos accepted later
  have hkept : 0 < (refilled r.settings (some b) later).value := Int.lt_of_lt_of_le hpos hless
  obtain ⟨hsound, hgone⟩ := find?_of_idle sound hb stale (Int.le_trans order readable) hswept
  refine ⟨fun hage => hgone.resolve_right fun h => absurd h.1 (Nat.not_lt.2 hage), ?_⟩
  rw [checkSubject_of_sound sound readable, checkSubject_of_sound hsound readable, hb]
  rcases hgone with hnone | ⟨-, rfl⟩
  · rw [hnone, ofRemaining_eq_success_iff.2 hpos, ofRemaining_eq_success_iff.2 hkept]
    refine ⟨_, _, rfl, rfl, ?_, fun hfull => ?_⟩
    · rw [Buckets.value_set, Buckets.value_set]
      exact hless
    · have hcapacity := (hfilled _ rfl).2
      have hnew := value_refilled_none_of_le hfull later
      rw [Buckets.value_set, Buckets.value_set]
      omega
  · rw [hb, ofRemaining_eq_success_iff.2 hkept]
    exact ⟨_, _, rfl, rfl, Int.le_refl _, fun _ => rfl⟩

/-- A capacity that is worth more than as many ticks as are ever counted. -/
def vast : RateLimit :=
  { capacityMs := 8589934592, intervalMs := 1, perIntervalMs := 1, staleAfterSecs := 8589935 }

def thrifty : Store :=
  ⟨.sound, Buckets.empty.set "a" ⟨5, 0⟩⟩

/-- One nanosecond after the age of a sweep, the bucket is lost with what it had beyond the
ticks. -/
theorem thrifty_never_enriched :
    vast.validate = .ok () ∧
      ∃ swept fresh kept, cleanup thrifty vast.staleAfter 8589935000000001 = .ok swept ∧
        swept.buckets.find? "a" = none ∧
        checkSubject vast.settings swept "a" 8589935000000001 = .ok (.success, fresh) ∧
        checkSubject vast.settings thrifty "a" 8589935000000001 = .ok (.success, kept) ∧
        fresh.buckets.value "a" ≤ kept.buckets.value "a" ∧
        fresh.buckets.value "a" = 4294967295000000 ∧ kept.buckets.value "a" = 4294967295000005 := by
  have hvalid : vast.validate = .ok () := by decide
  obtain ⟨hgone, fresh, kept, hfresh, hkept, hless, -⟩ :=
    sweep_never_enriches vast hvalid thrifty _ rfl "a" ⟨5, 0⟩ rfl (by decide)
      (by decide) 8589935000000001
      8589935000000001 (by decide) rfl (Int.le_refl _) (by decide)
  refine ⟨hvalid, _, fresh, kept, rfl, hgone (by decide), hfresh, hkept, hless, ?_, ?_⟩
  · obtain ⟨-, rfl⟩ := Prod.mk.inj (Except.ok.inj hfresh)
    decide +kernel
  · obtain ⟨-, rfl⟩ := Prod.mk.inj (Except.ok.inj hkept)
    decide +kernel

/-! ### Ages at which sweeps end -/

theorem reaches_iff {secs : Nat} :
    (secs * 1000000000 ≤ 9223372036854775807 * 1000000 →
      (-8334601228800 * 1000000000 : Int) ≤ 0 - (secs * 1000000000 : Nat)) ↔
      secs ≤ 8334601228800 ∨ 9223372036854775 < secs := by
  omega

/-- **Ages at which sweeps end.** Take settings that validation accepts. They are accepted with
every greater age as well. At any time from 1970 on, a sweep of a sound store ends unless its age
reaches back before the calendar without being refused. If it ends, it has removed exactly the
buckets last written before its threshold, or left the store as it is if the age is refused. So
sweeps end at all these times only if the age reaches from 1970 to no earlier than the calendar, or
is refused. -/
theorem cleanup_ends_iff (r : RateLimit) (accepted : r.validate = .ok ()) :
    (∀ secs, r.staleAfterSecs ≤ secs → { r with staleAfterSecs := secs }.validate = .ok ()) ∧
    (∀ store now, store.health = .sound → 0 ≤ now → now ≤ Instant.last →
      ((∃ swept, cleanup store r.staleAfter now = .ok swept) ↔
        (r.staleAfter ≤ Span.longest → Instant.first ≤ now - (r.staleAfter : Int))) ∧
      ∀ swept, cleanup store r.staleAfter now = .ok swept →
        (Span.longest < r.staleAfter ∧ swept = store) ∨
          (r.staleAfter ≤ Span.longest ∧ swept.health = .sound ∧ ∀ key, swept.buckets.find? key =
            (store.buckets.find? key).filter fun b => now - (r.staleAfter : Int) ≤
              b.lastModified)) ∧
    ((∀ store now, store.health = .sound → 0 ≤ now → now ≤ Instant.last →
        ∃ swept, cleanup store r.staleAfter now = .ok swept) ↔
      r.staleAfterSecs.toNat ≤ 8334601228800 ∨ 9223372036854775 < r.staleAfterSecs.toNat) := by
  refine ⟨fun secs => RateLimit.validate_of_le accepted, fun store now sound _ hnow =>
    ⟨exists_cleanup_iff sound hnow _, fun swept => eq_or_find?_of_cleanup sound hnow⟩, ?_⟩
  rw [← reaches_iff]
  constructor
  · intro hends hage
    exact (exists_cleanup_iff rfl (by decide) r.staleAfter).1
      (hends Store.empty 0 rfl (Int.le_refl _) (by decide)) hage
  · intro hreach store now sound hepoch hnow
    refine (exists_cleanup_iff sound hnow _).2 fun hage => ?_
    exact Int.le_trans (hreach hage) (Int.sub_le_sub_right hepoch _)

/-- An age of ten million million seconds. -/
def drowsy : RateLimit :=
  { staleAfterSecs := 10000000000000 }

/-- With that age, sweeps end from the year 54744 on. -/
theorem drowsy_ends :
    drowsy.validate = .ok () ∧
      (∃ swept, cleanup thrifty drowsy.staleAfter (1665398771200 * Span.second) = .ok swept) ∧
      ¬∃ swept, cleanup thrifty drowsy.staleAfter (1665398771200 * Span.second - 1) =
        .ok swept := by
  have hvalid : drowsy.validate = .ok () := by decide
  obtain ⟨-, hends, -⟩ := cleanup_ends_iff drowsy hvalid
  refine ⟨hvalid, ?_, ?_⟩
  · exact (hends thrifty _ rfl (by decide) (by decide)).1.2 (by decide)
  · rw [(hends thrifty _ rfl (by decide) (by decide)).1]
    decide

/-- Ten minutes after 1970 a sweep with that age stops everything, although validation accepts
it. -/
theorem drowsy_halts :
    drowsy.validate = .ok () ∧
      cleanup ⟨.sound, Buckets.empty.set "a" ⟨30000000000, 0⟩⟩ drowsy.staleAfter 600000000000 =
        .error .halted := by
  refine ⟨by decide, ?_⟩
  rw [cleanup_eq rfl (by decide), if_neg (by decide), if_neg (by decide)]

end Turnstile.Limiter
