import Turnstile.Proofs.Limiter.Rejection

/-!
# Recovery of a subject that is polled

A check for which a tick is due loses what has passed of the next one. However often and whenever a
subject is checked, it loses less than one tick for each that it gets. So after `2 * n - 1` ticks it
has got `n` of them, and its bucket holds what these are worth, as far as the capacity goes.

The capacity counts as the most that 64 bits hold if it is greater than that.

## Main definitions

- `Limiter.Regained` — the invariant that ties a bucket to the ticks it has got

## Main statements

- `Limiter.Regained.check` — what one check keeps
- `Limiter.exists_regained_of_run` — what a run keeps
- `Limiter.recovers_when_polled` — the statement about runs
-/

namespace Turnstile.Limiter

/-- What has become of a bucket since it was `start`. It has got some ticks, up to the capacity, and
each of them took at most twice the length of a tick, unless there are as many as are ever counted
at once. -/
structure Regained (settings : LimiterSettings) (start : Bucket) (ticks : Nat)
    (b : Bucket) : Prop where
  value : min (Budget.ofSpan settings.capacity) (start.value + refill settings ticks) ≤ b.value
  clock : maxTicks ≤ ticks ∨
    b.lastModified ≤ start.lastModified + (2 * ticks * tickLength settings : Nat)

variable {settings : LimiterSettings} {subject : String} {since now : Instant} {start b : Bucket}
  {ticks : Nat} {store : Store} {events : List Event} {steps : List Step} {call : Call}

/-! ### Ticks -/

theorem lt_add_succ_mul_of_div {a c : Int} {length : Nat} (hlength : 0 < length) :
    c < a + (((c - a).toNat / length + 1) * length : Nat) := by
  have hlt := Nat.lt_div_mul_add (a := (c - a).toNat) hlength
  rw [Nat.add_mul, Nat.one_mul]
  omega

/-- Less than one tick more than those that are counted has passed, unless it is the most that is
ever counted. -/
theorem lt_add_ticksSince (hmost : ticksSince settings since now < maxTicks) :
    now < since + ((ticksSince settings since now + 1) * tickLength settings : Nat) := by
  have hcount : ticksSince settings since now =
      Instant.elapsed since now / tickLength settings := by
    apply Nat.min_eq_left
    apply Nat.le_of_not_le
    intro hle
    exact absurd hmost (Nat.not_lt.2 (Nat.le_min.2 ⟨hle, Nat.le_refl _⟩))
  rw [hcount]
  exact lt_add_succ_mul_of_div (tickLength_pos settings)

theorem le_add_two_mul {s m t : Int} {k n length : Nat} (hn : n ≠ 0)
    (hm : m ≤ s + (2 * k * length : Nat)) (ht : t < m + ((n + 1) * length : Nat)) :
    t ≤ s + (2 * (k + n) * length : Nat) := by
  have hlength : length ≤ n * length := Nat.le_mul_of_pos_left _ (Nat.pos_of_ne_zero hn)
  rw [Nat.add_mul, Nat.one_mul] at ht
  rw [Nat.mul_assoc] at hm
  rw [Nat.mul_assoc, Nat.add_mul]
  omega

theorem lt_add_two_mul_succ {s m t : Int} {k length : Nat} (hm : m ≤ s + (2 * k * length : Nat))
    (ht : t < m + length) : t < s + ((2 * k + 1) * length : Nat) := by
  rw [Nat.add_mul, Nat.one_mul]
  omega

theorem le_of_lt_add_two_mul_succ {s t : Int} {n k length : Nat} (hn : 1 ≤ n)
    (hreached : s + ((2 * n - 1) * length : Nat) ≤ t)
    (ht : t < s + ((2 * k + 1) * length : Nat)) : n ≤ k := by
  have hlt : (2 * n - 1) * length < (2 * k + 1) * length := by omega
  have hcount : 2 * n - 1 < 2 * k + 1 := Nat.lt_of_mul_lt_mul_right hlt
  omega

/-! ### What single calls keep -/

theorem regained_zero (within : start.value ≤ Budget.ofSpan settings.capacity) :
    Regained settings start 0 start where
  value := by
    have hnothing : refill settings 0 = 0 := rfl
    omega
  clock := Or.inr (by simp)

/-- After a check, a bucket has got so many ticks that less than one has passed since the last of
them, at twice their length for each. -/
theorem Regained.check (h : Regained settings start ticks b) (hleast : Budget.least ≤ b.value)
    (now : Instant) :
    ∃ ticks', Regained settings start ticks' (refilled settings (some b) now) ∧
      (maxTicks ≤ ticks' ∨
        now < start.lastModified + ((2 * ticks' + 1) * tickLength settings : Nat)) := by
  by_cases hticks : ticksSince settings b.lastModified now = 0
  · rw [refilled_of_no_tick hticks]
    refine ⟨ticks, h, h.clock.imp_right fun hclock => ?_⟩
    exact lt_add_two_mul_succ hclock (lt_add_tickLength hticks)
  · have hvalue := h.value
    have hsplit : refill settings (ticks + ticksSince settings b.lastModified now) ≤
        refill settings ticks + refill settings (ticksSince settings b.lastModified now) :=
      refill_add_le _ _
    have hrefill := refill_nonneg settings (ticksSince settings b.lastModified now)
    rw [refilled_of_ticks hticks hleast]
    -- what was counted at once is the most, or the check came before the next tick
    have hclock : maxTicks ≤ ticks + ticksSince settings b.lastModified now ∨
        now ≤ start.lastModified +
          (2 * (ticks + ticksSince settings b.lastModified now) * tickLength settings : Nat) := by
      rcases h.clock with hmost | hclock
      · exact Or.inl (Nat.le_add_right_of_le hmost)
      · rcases Nat.lt_or_ge (ticksSince settings b.lastModified now) maxTicks with hfew | hmost
        · exact Or.inr (le_add_two_mul hticks hclock (lt_add_ticksSince hfew))
        · exact Or.inl (Nat.le_add_left_of_le hmost)
    refine ⟨ticks + ticksSince settings b.lastModified now, ⟨?_, hclock⟩,
      hclock.imp_right fun hnow => ?_⟩
    · show min _ _ ≤ min _ _
      omega
    · exact lt_add_two_mul_succ hnow
        (Int.lt_add_of_pos_right _ (Int.ofNat_lt.2 (tickLength_pos settings)))

/-- Whatever is asked for but a charge and a sweep, a bucket stays one that has got some ticks. -/
theorem Regained.onBucket (h : Regained settings start ticks b) (hleast : Budget.least ≤ b.value)
    (uncharged : ∀ consumed, call ≠ .charge subject consumed) (unswept : call.isSweep = false)
    (now : Instant) :
    ∃ ticks' b', call.onBucket settings subject now (some b) = some b' ∧
      Regained settings start ticks' b' ∧
      (call = .check subject →
        maxTicks ≤ ticks' ∨
        now < start.lastModified + ((2 * ticks' + 1) * tickLength settings : Nat)) := by
  obtain ⟨ticks', hchecked, hclock⟩ := h.check hleast now
  cases call with
  | check other =>
    by_cases hother : subject = other
    · exact ⟨ticks', _, if_pos hother, hchecked, fun _ => hclock⟩
    · refine ⟨ticks, b, if_neg hother, h, fun heq => ?_⟩
      exact absurd (Call.check.inj heq).symm hother
  | checkToken signer token =>
    simp only [Call.onBucket]
    split
    · by_cases hother : subject = token
      · exact ⟨ticks', _, if_pos hother, hchecked, fun heq => Call.noConfusion heq⟩
      · exact ⟨ticks, b, if_neg hother, h, fun heq => Call.noConfusion heq⟩
    · exact ⟨ticks, b, rfl, h, fun heq => Call.noConfusion heq⟩
  | charge other consumed =>
    have hother : subject ≠ other := by
      rintro rfl
      exact uncharged consumed rfl
    exact ⟨ticks, b, if_neg hother, h, fun heq => Call.noConfusion heq⟩
  | sweep staleAfter => cases unswept

/-! ### Runs -/

/-- In a run without charges of a subject, its bucket has got some ticks after every check. -/
theorem exists_regained_of_run (sound : store.health = .sound)
    (found : store.buckets.find? subject = some b) (bounded : Bounded settings (some b))
    (regained : Regained settings start ticks b)
    (uncharged : ∀ e ∈ events, ∀ consumed, e.call ≠ .charge subject consumed)
    (unswept : ∀ e ∈ events, e.call.isSweep = false) (h : run settings store events = .ok steps) :
    ∀ s ∈ steps, s.call = .check subject → ∃ ticks' b', s.after.buckets.find? subject = some b' ∧
      Regained settings start ticks' b' ∧
      (maxTicks ≤ ticks' ∨
        s.now < start.lastModified + ((2 * ticks' + 1) * tickLength settings : Nat)) := by
  -- on the calls, with the bucket that the run has come to
  induction events generalizing store b ticks steps with
  | nil =>
    obtain rfl := Except.ok.inj h
    nofun
  | cons e rest ih =>
    obtain ⟨outcome, after, steps, hperform, hrest, rfl⟩ := run_cons_eq_ok h
    obtain ⟨hsound, hfind⟩ := find?_of_perform sound hperform
    obtain ⟨ticks', b', hb', hregained, hclock⟩ := regained.onBucket (bounded b rfl).1
      (uncharged e List.mem_cons_self) (unswept e List.mem_cons_self) e.now
    have hfound : after.buckets.find? subject = some b' := by
      rw [hfind, found, hb']
    have hbounded : Bounded settings (some b') := hb' ▸ bounded_onBucket bounded e.call
    intro s hs hcheck
    rcases List.mem_cons.1 hs with rfl | hs
    · exact ⟨ticks', b', hfound, hregained, hclock hcheck⟩
    · exact ih hsound hfound hbounded hregained
        (fun e' he' => uncharged e' (List.mem_cons_of_mem _ he'))
        (fun e' he' => unswept e' (List.mem_cons_of_mem _ he')) hrest s hs hcheck

/-- A bucket that has got enough ticks holds what they are worth. -/
theorem Regained.value_of_le (h : Regained settings start ticks b) {n : Nat} (hn : n ≤ ticks)
    (held : ((settings.perInterval * n : Nat) : Int) ≤ Budget.greatest) :
    min (Budget.ofSpan settings.capacity)
      (start.value + (settings.perInterval * n : Nat)) ≤ b.value := by
  have hworth : refill settings n = (settings.perInterval * n : Nat) := Int.min_eq_left held
  have hmono : refill settings n ≤ refill settings ticks := refill_mono hn
  have hvalue := h.value
  omega

/-- **A subject recovers however it is polled.** A subject has a bucket within the capacity, and in
a run it is neither charged nor swept. Whenever it is checked, and whatever else is asked for and
whichever way the clock moves: at a check that comes `2 * n - 1` ticks after the bucket was written,
or later, the bucket holds no less than with `n` refills, as far as the capacity goes. So the check
succeeds if that is more than nothing. -/
theorem recovers_when_polled (settings : LimiterSettings) (subject : String)
    (store : Store) (b : Bucket) (events : List Event) (tick : 1 ≤ settings.interval)
    (sound : store.health = .sound) (found : store.buckets.find? subject = some b)
    (hleast : Budget.least ≤ b.value) (within : b.value ≤ Budget.ofSpan settings.capacity)
    (readable : ∀ e ∈ events, e.now ≤ Instant.last)
    (uncharged : ∀ e ∈ events, ∀ consumed, e.call ≠ .charge subject consumed)
    (unswept : ∀ e ∈ events, e.call.isSweep = false) :
    ∃ steps, run settings store events = .ok steps ∧
      ∀ s ∈ steps, s.call = .check subject → ∀ n, 1 ≤ n → n ≤ maxTicks →
        ((settings.perInterval * n : Nat) : Int) ≤ Budget.greatest →
        b.lastModified + ((2 * n - 1) * settings.interval : Nat) ≤ s.now →
        min (Budget.ofSpan settings.capacity) (b.value + (settings.perInterval * n : Nat)) ≤
            s.after.buckets.value subject ∧
          (0 < settings.capacity → 0 < b.value + (settings.perInterval * n : Nat) →
            s.outcome = .verdict .success) := by
  obtain ⟨steps, hrun⟩ := exists_run sound readable unswept
  have hbounded : Bounded settings (some b) := by
    rintro _ ⟨⟩
    exact ⟨hleast, within⟩
  have htick : tickLength settings = settings.interval := Nat.max_eq_left tick
  refine ⟨steps, hrun, fun s hs hcheck n hn hmost held reached => ?_⟩
  obtain ⟨ticks, b', hfound, hregained, hclock⟩ := exists_regained_of_run sound found hbounded
    (regained_zero within) uncharged unswept hrun s hs hcheck
  have hticks : n ≤ ticks := by
    rcases hclock with hall | hclock
    · exact Nat.le_trans hmost hall
    · rw [htick] at hclock
      exact le_of_lt_add_two_mul_succ hn reached hclock
  have hvalue := hregained.value_of_le hticks held
  have hafter : s.after.buckets.value subject = b'.value := by
    rw [Buckets.value, hfound]
    rfl
  rw [success_iff_of_mem_run sound hrun hs hcheck, hafter]
  refine ⟨hvalue, fun hcapacity hpos => ?_⟩
  have hcap : 0 < Budget.ofSpan settings.capacity := Budget.ofSpan_pos hcapacity
  omega

/-- The bucket of a subject that is twenty-five in debt. -/
def indebted : Store :=
  ⟨.sound, Buckets.empty.set "a" ⟨-25, 0⟩⟩

/-- Polled just before a second tick is due, a subject loses almost every other tick. It has three
of them at the third check, and is let through. -/
theorem indebted_recovers :
    ∃ steps, run tens indebted [⟨19, .check "a"⟩, ⟨38, .check "a"⟩, ⟨57, .check "a"⟩] = .ok steps ∧
      ∃ s ∈ steps, s.now = 57 ∧ 5 ≤ s.after.buckets.value "a" ∧ s.outcome = .verdict .success := by
  obtain ⟨steps, hrun, hrecovers⟩ := recovers_when_polled tens "a" indebted ⟨-25, 0⟩
    [⟨19, .check "a"⟩, ⟨38, .check "a"⟩, ⟨57, .check "a"⟩] (by decide)
    rfl rfl (by decide) (by decide)
    (by decide) (by simp) (by decide)
  obtain ⟨s, hs, hevent⟩ : ∃ s ∈ steps, s.toEvent = ⟨57, .check "a"⟩ := by
    rw [← List.mem_map, map_toEvent_of_run hrun]
    decide
  have hnow : s.now = 57 := by rw [hevent]
  have hcheck : s.call = .check "a" := by rw [hevent]
  obtain ⟨hvalue, hsuccess⟩ := hrecovers s hs hcheck 3 (by decide) (by decide) (by decide)
    (by rw [hnow]; decide)
  exact ⟨steps, hrun, s, hs, hnow, hvalue, hsuccess (by decide) (by decide)⟩

/-- A capacity that 64 bits do not hold, and a refill that they just hold. -/
def boundless : LimiterSettings :=
  { capacity := 9223372036854775808, interval := 1, perInterval := 9223372036854775807 }

/-- One tick after a bucket of one was written, it would hold the capacity. But it holds no more
than 64 bits do. -/
theorem boundless_cut_off :
    1 ≤ boundless.interval ∧ (1 : Int) ≤ boundless.capacity ∧
      ((boundless.perInterval * 1 : Nat) : Int) ≤ Budget.greatest ∧
      (0 : Int) + ((2 * 1 - 1) * boundless.interval : Nat) ≤ 1 ∧
      ∃ s, run boundless ⟨.sound, Buckets.empty.set "a" ⟨1, 0⟩⟩ [⟨1, .check "a"⟩] = .ok [s] ∧
        s.after.buckets.value "a" < min (boundless.capacity : Int)
          (1 + (boundless.perInterval * 1 : Nat)) := by
  refine ⟨by decide, by decide, by decide, by decide, _, rfl, ?_⟩
  decide

end Turnstile.Limiter
