import Turnstile.Proofs.Limiter.Independence
import Turnstile.Proofs.Limiter.Rejection

/-!
# What holds of every bucket, whichever way the clock goes

A clock that is set back leaves buckets that were last written in the future. Checks count no tick
for these until the clock has caught up, and a bucket that was swept may come back in debt. Still no
bucket ever holds more than the capacity, and of a check it can be told from the bucket before it
alone whether it writes: it does unless the bucket is there and the clock has not come to the next
tick.

## Main definitions

- `Limiter.Step.Settles` — what a check does to the store

## Main statements

- `Limiter.ticksSince_eq_zero_iff` — the instants up to which no tick is counted
- `Limiter.every_bucket_bounded` — the invariant of all runs
-/

namespace Turnstile.Limiter

/-- What a step does that is a check of a subject. Up to the next tick it leaves the store as it
was. From then on, and for a subject without a bucket, it writes the bucket of the subject without
lowering it. It leaves all other buckets alone, and decides by what is in the bucket afterwards. -/
structure Step.Settles (settings : LimiterSettings) (subject : String) (s : Step) : Prop where
  early : ∀ b, s.before.buckets.find? subject = some b →
    s.now < b.lastModified + (settings.interval : Int) →
    s.after = s.before
  due : (∀ b, s.before.buckets.find? subject = some b →
    b.lastModified + (settings.interval : Int) ≤ s.now) →
    s.after.buckets.lastModified? subject = some s.now ∧
      s.before.buckets.value subject ≤ s.after.buckets.value subject
  others : ∀ key, key ≠ subject → s.after.buckets.find? key = s.before.buckets.find? key
  succeeds_iff : s.outcome = .verdict .success ↔ 0 < s.after.buckets.value subject
  limited_iff : s.outcome = .verdict .rateLimited ↔ s.after.buckets.value subject ≤ 0

variable {settings : LimiterSettings} {store after : Store} {subject : String} {since now : Instant}
  {bucket : Option Bucket} {outcome : Outcome} {events : List Event} {steps : List Step} {s : Step}

/-! ### When a check writes -/

theorem toNat_sub_lt_of_lt_add {a c : Int} {n : Nat} (hpos : 0 < n) (hlt : c < a + n) :
    (c - a).toNat < n := by
  omega

/-- No tick is counted up to one length of a tick. -/
theorem ticksSince_eq_zero_iff :
    ticksSince settings since now = 0 ↔ now < since + tickLength settings := by
  constructor
  · exact lt_add_tickLength
  · intro hlt
    have helapsed : Instant.elapsed since now < tickLength settings :=
      toNat_sub_lt_of_lt_add (tickLength_pos settings) hlt
    have hdiv : Instant.elapsed since now / tickLength settings = 0 := Nat.div_eq_of_lt helapsed
    change min (Instant.elapsed since now / tickLength settings) maxTicks = 0
    rw [hdiv, Nat.zero_min]

theorem refilled_of_early {b : Bucket} (hearly : now < b.lastModified + (settings.interval : Int)) :
    refilled settings (some b) now = b := by
  have hlength : (settings.interval : Int) ≤ tickLength settings :=
    Int.ofNat_le.2 (Nat.le_max_left _ _)
  exact refilled_of_no_tick
    (ticksSince_eq_zero_iff.2 (Int.lt_of_lt_of_le hearly (Int.add_le_add_left hlength _)))

theorem eq_of_not_early {a c : Int} {n : Nat} (hlast : c < a + (max n 1 : Nat))
    (hreached : a + n ≤ c) : a = c := by
  omega

/-- Once the clock has come to the next tick, a check marks the bucket as written then. A tick of no
length is counted as one nanosecond, but at the very instant of the last write the mark is there
already. -/
theorem lastModified_refilled
    (hdue : ∀ b, bucket = some b → b.lastModified + (settings.interval : Int) ≤ now) :
    (refilled settings bucket now).lastModified = now := by
  by_cases hticks : dueTicks settings bucket now = 0
  · obtain ⟨b, rfl, hrefilled⟩ := exists_of_dueTicks_eq_zero hticks
    have hlast : now < b.lastModified + tickLength settings := ticksSince_eq_zero_iff.1 hticks
    rw [hrefilled]
    exact eq_of_not_early hlast (hdue b rfl)
  · rw [refilled_of_dueTicks_ne_zero hticks]
    rfl

/-! ### Single checks -/

theorem limited_iff_of_perform (sound : store.health = .sound)
    (h : (Call.check subject).perform settings store now = .ok (outcome, after)) :
    outcome = .verdict .rateLimited ↔ after.buckets.value subject ≤ 0 := by
  have hfind := (find?_of_perform sound h).2 subject
  simp only [Call.onBucket, if_pos] at hfind
  rw [outcome_of_perform_check sound h, Outcome.verdict.injEq, ofRemaining_eq_rateLimited_iff,
    Buckets.value, hfind]
  rfl

/-- A check of a bucket before its next tick writes nothing at all. -/
theorem eq_of_perform_early {b : Bucket} (sound : store.health = .sound)
    (h : (Call.check subject).perform settings store now = .ok (outcome, after))
    (found : store.buckets.find? subject = some b)
    (hearly : now < b.lastModified + (settings.interval : Int)) : after = store := by
  obtain ⟨⟨v, left⟩, hcheck, hend⟩ := exists_of_bind_eq_ok h
  obtain ⟨-, rfl⟩ := Prod.mk.inj (Except.ok.inj hend)
  obtain ⟨-, rfl⟩ := checkSubject_cases sound hcheck
  rw [found, refilled_of_early hearly, Buckets.set_of_find? found]

theorem settles_of_perform (sound : store.health = .sound)
    (bounded : Bounded settings (store.buckets.find? subject))
    (h : (Call.check subject).perform settings store now = .ok (outcome, after)) :
    Step.Settles settings subject ⟨⟨now, .check subject⟩, store, outcome, after⟩ := by
  have hfind := (find?_of_perform sound h).2
  have hchecked : after.buckets.find? subject =
      some (refilled settings (store.buckets.find? subject) now) := by
    rw [hfind, Call.onBucket, if_pos rfl]
  refine ⟨fun b found hearly => eq_of_perform_early sound h found hearly, fun hdue => ⟨?_, ?_⟩,
    fun key hkey => ?_, success_iff_of_perform sound h, limited_iff_of_perform sound h⟩
  · rw [Buckets.lastModified?, hchecked, Option.map_some, lastModified_refilled hdue]
  · rw [Buckets.value, Buckets.value, hchecked, Option.map_some, Option.getD_some]
    exact value_le_value_refilled bounded
  · rw [hfind, Call.onBucket, if_neg hkey]

/-! ### Runs -/

/-- **No bucket ever holds more than the capacity.** Let the limiter be asked for anything from the
empty store on, with the clock going forth and back as it likes. On a clock that can be read the run
ends, if none of its sweeps reaches back before the calendar. After every call of a run that ends,
all buckets hold at most the capacity, as far as 64 bits hold it. A check before the next tick of
its bucket leaves the store exactly as it was. Every other check marks the bucket as written then,
and does not lower it. A check succeeds exactly if there is something in the bucket afterwards. -/
theorem every_bucket_bounded (settings : LimiterSettings) (events : List Event) :
    ((∀ e ∈ events, e.now ≤ Instant.last ∧ e.call.Possible e.now) →
      ∃ steps, run settings Store.empty events = .ok steps) ∧
    ∀ steps, run settings Store.empty events = .ok steps → ∀ s ∈ steps,
      (∀ key b, s.after.buckets.find? key = some b →
        b.value ≤ min (settings.capacity : Int) Budget.greatest) ∧
      ∀ subject, s.call = .check subject → s.Settles settings subject := by
  refine ⟨fun h => exists_run_of_possible rfl (fun e he => (h e he).1) fun e he => (h e he).2, ?_⟩
  intro steps hrun s hs
  obtain ⟨⟨sound, hbounded⟩, hperform⟩ := perform_of_mem_run
    (fun store => store.health = .sound ∧ ∀ key, Bounded settings (store.buckets.find? key))
    bounded_of_perform ⟨rfl, fun key b hb => by cases hb⟩ hrun hs
  obtain ⟨-, hafter⟩ := bounded_of_perform ⟨sound, hbounded⟩ hperform
  refine ⟨fun key b hb => (hafter key b hb).2, fun subject hcheck => ?_⟩
  obtain ⟨⟨now, call⟩, before, outcome, after⟩ := s
  obtain rfl : call = .check subject := hcheck
  exact settles_of_perform sound (hbounded subject) hperform

/-- A subject that is checked, charged, swept and charged again, while the clock goes back twice. -/
def restless : List Event :=
  [⟨50, .check "a"⟩, ⟨52, .charge "a" 25⟩, ⟨12, .check "a"⟩, ⟨61, .check "a"⟩, ⟨62, .check "a"⟩,
    ⟨95, .sweep 30⟩, ⟨20, .charge "a" 45⟩, ⟨29, .check "a"⟩, ⟨75, .check "a"⟩]

/-- The bucket of that subject is left alone until ten nanoseconds after it was written, vanishes,
comes back in debt, and is let through again once the debt has been paid off. -/
theorem restless_bounded :
    ∃ steps, run { capacity := 30, interval := 10, perInterval := 10 }
      Store.empty restless = .ok steps ∧
      (∀ s ∈ steps, ∀ key b, s.after.buckets.find? key = some b →
        b.value ≤ min ((30 : Nat) : Int) Budget.greatest) ∧
      (∀ s ∈ steps, s.call = .check "a" →
        s.Settles { capacity := 30, interval := 10, perInterval := 10 } "a") ∧
      steps.map (fun s => s.after.buckets.find? "a") =
        [some ⟨30, 50⟩, some ⟨5, 52⟩, some ⟨5, 52⟩, some ⟨5, 52⟩, some ⟨15, 62⟩, none,
          some ⟨-45, 20⟩, some ⟨-45, 20⟩, some ⟨5, 75⟩] := by
  obtain ⟨hends, hholds⟩ :=
    every_bucket_bounded { capacity := 30, interval := 10, perInterval := 10 } restless
  obtain ⟨steps, hrun⟩ := hends (by simp [restless, Call.Possible]; decide)
  refine ⟨steps, hrun, fun s hs => (hholds steps hrun s hs).1,
    fun s hs => (hholds steps hrun s hs).2 "a", ?_⟩
  obtain rfl := Except.ok.inj hrun
  decide +kernel

end Turnstile.Limiter
