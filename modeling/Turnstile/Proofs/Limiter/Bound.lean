import Turnstile.Proofs.Limiter.Run

/-!
# The limiter never grants more than capacity and refill

In a run on a clock that does not go back, a subject that is let through has been charged less since
any earlier call than the capacity and one refill for each whole interval that has passed since
then. The interval may start in the middle of a tick: before the first charge after it a bucket
holds no more than the capacity, and that charge starts the count of ticks anew.

## Main definitions

- `Limiter.spent` — what a subject is charged in some steps of a run
- `Limiter.Step.Saturates` — charges that 64 bits cannot hold
- `Limiter.Covered` — the invariant that ties a bucket to what was charged

## Main statements

- `Limiter.spent_lt_capacity_add_refill` — the bound
-/

namespace Turnstile.Limiter

/-- The amount that a subject is charged in a step. -/
def Step.amount (subject : String) (s : Step) : Int :=
  match s.call with
  | .charge other consumed => if subject = other then Budget.ofSpan consumed else 0
  | _ => 0

/-- The amounts that a subject is charged in some steps of a run. -/
def spent (subject : String) : List Step → Int
  | [] => 0
  | s :: steps => s.amount subject + spent subject steps

/-- A charge that would take a bucket below what 64 bits hold. -/
def Step.Saturates (s : Step) : Prop :=
  match s.call with
  | .charge subject consumed =>
    s.before.buckets.value subject - Budget.ofSpan consumed < Budget.least
  | _ => False

/-- The budget of a bucket is within the capacity and within 64 bits. -/
def Bounded (settings : LimiterSettings) (bucket : Option Bucket) : Prop :=
  ∀ b, bucket = some b → Budget.least ≤ b.value ∧ b.value ≤ Budget.ofSpan settings.capacity

/-- The budget that the whole intervals between two instants add. -/
def credit (settings : LimiterSettings) (since now : Instant) : Int :=
  (settings.perInterval * (Instant.elapsed since now / settings.interval) : Nat)

/-- What a bucket and the charges since `start` have to do with each other while the clock shows
`now`. Nothing has been charged yet, or the bucket was written since and its budget together with
the charges is within the capacity and the credit up to then. -/
structure Covered (settings : LimiterSettings) (start now : Instant) (charges : Int)
    (bucket : Option Bucket) : Prop where
  bounded : Bounded settings bucket
  within : charges = 0 ∨ ∃ b, bucket = some b ∧ start ≤ b.lastModified ∧ b.lastModified ≤ now ∧
    b.value + charges ≤ Budget.ofSpan settings.capacity + credit settings start b.lastModified

variable {settings : LimiterSettings} {subject : String} {start now later : Instant}
  {charges : Int} {bucket : Option Bucket}

/-! ### Credit -/

theorem toNat_sub_le {a b c : Int} (hle : b ≤ c) : (b - a).toNat ≤ (c - a).toNat := by
  omega

theorem toNat_sub_eq_add {a b c : Int} (hab : a ≤ b) (hbc : b ≤ c) :
    (c - a).toNat = (b - a).toNat + (c - b).toNat := by
  omega

theorem credit_mono (hle : now ≤ later) :
    credit settings start now ≤ credit settings start later := by
  have helapsed : Instant.elapsed start now ≤ Instant.elapsed start later := toNat_sub_le hle
  exact Int.ofNat_le.2 (Nat.mul_le_mul_left _ (Nat.div_le_div_right helapsed))

theorem credit_nonneg : 0 ≤ credit settings start now :=
  Int.natCast_nonneg _

/-- The ticks counted since an instant are worth no more than the credit since then. -/
theorem refill_ticksSince_le (tick : 1 ≤ settings.interval) :
    refill settings (ticksSince settings start now) ≤ credit settings start now := by
  have hticks : ticksSince settings start now ≤ Instant.elapsed start now / settings.interval := by
    rw [ticksSince, Nat.max_eq_left tick]
    exact Nat.min_le_left _ _
  exact Int.le_trans (Budget.ofSpan_le _) (Int.ofNat_le.2 (Nat.mul_le_mul_left _ hticks))

/-- Whole intervals counted in two parts are no more than those counted at once. -/
theorem credit_add_credit_le (hstart : start ≤ now) (hnow : now ≤ later) :
    credit settings start now + credit settings now later ≤ credit settings start later := by
  have helapsed : Instant.elapsed start later =
      Instant.elapsed start now + Instant.elapsed now later := toNat_sub_eq_add hstart hnow
  unfold credit
  rw [← Int.natCast_add, ← Nat.mul_add, helapsed]
  exact Int.ofNat_le.2 (Nat.mul_le_mul_left _ Nat.div_add_div_le_add_div)

theorem spent_append (subject : String) (steps steps' : List Step) :
    spent subject (steps ++ steps') = spent subject steps + spent subject steps' := by
  induction steps with
  | nil => exact (Int.zero_add _).symm
  | cons s rest ih => rw [List.cons_append, spent, spent, ih, Int.add_assoc]

/-! ### What single calls keep -/

theorem bounded_refilled (h : Bounded settings bucket) :
    Bounded settings (some (refilled settings bucket now)) := by
  rintro b hb
  obtain rfl := Option.some.inj hb
  cases bucket with
  | none =>
    exact ⟨least_le_value_toppedUp _ _ _ _, value_toppedUp_le_capacity _ _ _ _⟩
  | some b =>
    unfold refilled
    dsimp only
    split
    · exact h b rfl
    · exact ⟨least_le_value_toppedUp _ _ _ _, value_toppedUp_le_capacity _ _ _ _⟩

theorem bounded_charged (h : Bounded settings bucket) (consumed : Span) :
    Bounded settings (some (charged bucket consumed now)) := by
  rintro b hb
  obtain rfl := Option.some.inj hb
  refine ⟨Budget.least_le_clamp _, ?_⟩
  have hconsumed : 0 ≤ Budget.ofSpan consumed := Budget.ofSpan_nonneg _
  have hcapacity : 0 ≤ Budget.ofSpan settings.capacity := Budget.ofSpan_nonneg _
  have hvalue : (bucket.map (·.value)).getD 0 ≤ Budget.ofSpan settings.capacity := by
    cases bucket with
    | none => exact hcapacity
    | some b => exact (h b rfl).2
  unfold charged Budget.clamp Budget.least
  dsimp only
  omega

theorem bounded_onBucket (h : Bounded settings bucket) (call : Call) :
    Bounded settings (call.onBucket settings subject now bucket) := by
  cases call with
  | check other =>
    rw [Call.onBucket]
    split
    · exact bounded_refilled h
    · exact h
  | checkToken signer token =>
    rw [Call.onBucket]
    split
    · split
      · exact bounded_refilled h
      · exact h
    · exact h
  | charge other consumed =>
    rw [Call.onBucket]
    split
    · exact bounded_charged h consumed
    · exact h
  | sweep staleAfter =>
    rw [Call.onBucket, surviving]
    split
    · intro b hb
      exact h b (Option.eq_some_of_filter_eq_some hb)
    · exact h

/-- A call keeps all buckets of a sound store within their bounds. -/
theorem bounded_of_perform {store after : Store} {call : Call} {outcome : Outcome}
    (h : store.health = .sound ∧ ∀ subject, Bounded settings (store.buckets.find? subject))
    (hperform : call.perform settings store now = .ok (outcome, after)) :
    after.health = .sound ∧ ∀ subject, Bounded settings (after.buckets.find? subject) := by
  obtain ⟨sound, hfind⟩ := find?_of_perform h.1 hperform
  refine ⟨sound, fun subject => ?_⟩
  rw [hfind subject]
  exact bounded_onBucket (h.2 subject) call

/-- What is known of a bucket stays known as the clock goes on. -/
theorem Covered.mono (h : Covered settings start now charges bucket) (hle : now ≤ later) :
    Covered settings start later charges bucket := by
  refine ⟨h.bounded, h.within.imp_right ?_⟩
  rintro ⟨b, hb, hstart, hnow, hvalue⟩
  exact ⟨b, hb, hstart, Int.le_trans hnow hle, hvalue⟩

/-- A check keeps charges covered: what it adds is credit since the bucket was last written. -/
theorem Covered.refilled (tick : 1 ≤ settings.interval)
    (h : Covered settings start now charges bucket) :
    Covered settings start now charges (some (refilled settings bucket now)) := by
  refine ⟨bounded_refilled h.bounded, h.within.imp_right ?_⟩
  rintro ⟨b, rfl, hstart, hnow, hvalue⟩
  refine ⟨_, rfl, ?_⟩
  -- a refill counts its ticks from the last write, and the credit up to then is already counted
  unfold Limiter.refilled
  dsimp only
  split
  · exact ⟨hstart, hnow, hvalue⟩
  · have hadd : (toppedUp settings (some b) (ticksSince settings b.lastModified now) now).value ≤
        b.value + refill settings (ticksSince settings b.lastModified now) :=
      value_toppedUp_le_add (h.bounded b rfl).1 _
    have hticks : refill settings (ticksSince settings b.lastModified now) ≤
        credit settings b.lastModified now := refill_ticksSince_le tick
    have hcredit : credit settings start b.lastModified + credit settings b.lastModified now ≤
        credit settings start now := credit_add_credit_le hstart hnow
    refine ⟨Int.le_trans hstart hnow, Int.le_refl _, ?_⟩
    change _ ≤ _ + credit settings start now
    omega

/-- A charge that does not saturate is covered by what it takes from the bucket. -/
theorem Covered.charged (h : Covered settings start now charges bucket) (hstart : start ≤ now)
    {consumed : Span}
    (hfits : Budget.least ≤ (bucket.map (·.value)).getD 0 - Budget.ofSpan consumed) :
    Covered settings start now (charges + Budget.ofSpan consumed)
      (some (charged bucket consumed now)) := by
  refine ⟨bounded_charged h.bounded consumed, Or.inr ⟨_, rfl, hstart, Int.le_refl _, ?_⟩⟩
  have hclamp := Budget.clamp_le hfits
  have hcapacity : 0 ≤ Budget.ofSpan settings.capacity := Budget.ofSpan_nonneg _
  have hcredit : 0 ≤ credit settings start now := credit_nonneg
  change Budget.clamp _ + _ ≤ _ + credit settings start now
  rcases h.within with hnone | ⟨b, rfl, -, hnow, hvalue⟩
  · -- the first charge since the start: a bucket never holds more than the capacity
    cases bucket with
    | none =>
      simp only [Option.map_none, Option.getD_none] at hclamp ⊢
      omega
    | some b =>
      have hbounded := (h.bounded b rfl).2
      simp only [Option.map_some, Option.getD_some] at hclamp ⊢
      omega
  · have hmono : credit settings start b.lastModified ≤ credit settings start now :=
      credit_mono hnow
    simp only [Option.map_some, Option.getD_some] at hclamp ⊢
    omega

/-- Whatever is asked for but a sweep, charges stay covered. -/
theorem Covered.onBucket (tick : 1 ≤ settings.interval)
    (h : Covered settings start now charges bucket) (hstart : start ≤ now) {s : Step}
    (hbucket : s.before.buckets.find? subject = bucket)
    (unswept : s.call.isSweep = false) (fits : ¬s.Saturates) :
    Covered settings start now (charges + s.amount subject)
      (s.call.onBucket settings subject now bucket) := by
  unfold Step.amount
  unfold Step.Saturates at fits
  cases hcall : s.call with
  | check other =>
    rw [Call.onBucket, Int.add_zero]
    split
    · exact h.refilled tick
    · exact h
  | checkToken signer token =>
    rw [Call.onBucket, Int.add_zero]
    split
    · split
      · exact h.refilled tick
      · exact h
    · exact h
  | charge other consumed =>
    rw [Call.onBucket]
    rw [hcall] at fits
    by_cases hother : subject = other
    · rw [if_pos hother]
      simp only [if_pos hother]
      change ¬s.before.buckets.value other - Budget.ofSpan consumed < Budget.least at fits
      rw [← hother, Buckets.value, hbucket] at fits
      exact h.charged hstart (Int.not_lt.1 fits)
    · rw [if_neg hother]
      simp only [if_neg hother, Int.add_zero]
      exact h
  | sweep staleAfter =>
    rw [hcall] at unswept
    cases unswept

/-- Charges that are covered by a bucket with budget left are below the bound. -/
theorem Covered.lt_of_pos {b : Bucket} (h : Covered settings start now charges (some b))
    (hpos : 0 < b.value) :
    charges < Budget.ofSpan settings.capacity + credit settings start now := by
  have hbounded := (h.bounded b rfl).2
  have hcredit : 0 ≤ credit settings start now := credit_nonneg
  rcases h.within with hnone | ⟨c, hc, -, hnow, hvalue⟩
  · omega
  · obtain rfl := Option.some.inj hc
    have hmono : credit settings start b.lastModified ≤ credit settings start now :=
      credit_mono hnow
    omega

/-! ### Runs -/

theorem pos_of_ofRemaining_eq_success {remaining : Int}
    (h : Verdict.ofRemaining remaining = .success) : 0 < remaining := by
  unfold Verdict.ofRemaining at h
  split at h
  · cases h
  · omega

/-- In a run on a clock that does not go back, a check that succeeds shows that what was charged
before it is below the bound. -/
theorem add_spent_lt_of_run (tick : 1 ≤ settings.interval) {store : Store} {events : List Event}
    {between after : List Step} {last : Step} (sound : store.health = .sound)
    (h : Covered settings start now charges (store.buckets.find? subject)) (hstart : start ≤ now)
    (completes : run settings store events = .ok (between ++ last :: after))
    (clock : (now :: events.map (·.now)).Pairwise (· ≤ ·))
    (unswept : ∀ e ∈ events, e.call.isSweep = false)
    (fits : ∀ s ∈ between, ¬s.Saturates)
    (checked : last.call = .check subject) (succeeds : last.outcome = .verdict .success) :
    charges + spent subject between <
      Budget.ofSpan settings.capacity + credit settings start last.now := by
  -- on the steps before the check; what has been charged so far is covered by the bucket there
  induction between generalizing store events now charges with
  | nil =>
    cases events with
    | nil => cases completes
    | cons e rest =>
      obtain ⟨outcome, left, steps, hperform, -, hsteps⟩ := run_cons_eq_ok completes
      obtain ⟨rfl, -⟩ := List.cons.inj hsteps
      change e.call = _ at checked
      change outcome = _ at succeeds
      have hnow : now ≤ e.now := (List.pairwise_cons.1 clock).1 _ List.mem_cons_self
      rw [checked] at hperform
      have hverdict := outcome_of_perform_check sound hperform
      rw [succeeds] at hverdict
      have hpos := pos_of_ofRemaining_eq_success (Outcome.verdict.inj hverdict).symm
      rw [spent, Int.add_zero]
      exact ((h.mono hnow).refilled tick).lt_of_pos hpos
  | cons s between ih =>
    cases events with
    | nil => cases completes
    | cons e rest =>
      obtain ⟨outcome, left, steps, hperform, hrest, hsteps⟩ := run_cons_eq_ok completes
      obtain ⟨rfl, rfl⟩ := List.cons.inj hsteps
      have hnow : now ≤ e.now := (List.pairwise_cons.1 clock).1 _ List.mem_cons_self
      obtain ⟨hsound, hfind⟩ := find?_of_perform sound hperform
      have hcovered := (h.mono hnow).onBucket tick (Int.le_trans hstart hnow)
        (s := ⟨e, store, outcome, left⟩) rfl (unswept e List.mem_cons_self)
        (fits _ List.mem_cons_self)
      rw [← hfind subject] at hcovered
      rw [spent, ← Int.add_assoc]
      exact ih hsound hcovered (Int.le_trans hstart hnow) hrest (List.pairwise_cons.1 clock).2
        (fun e' he' => unswept e' (List.mem_cons_of_mem _ he'))
        (fun s' hs' => fits s' (List.mem_cons_of_mem _ hs'))

/-- **The limiter never grants more than capacity and refill.** In a run from the empty store
without sweeps, on a clock that does not go back, and with no charge that saturates, take any call
and any later check of a subject that succeeds. What the subject was charged between the two is less
than the capacity and one refill for each whole interval that passed between them. -/
theorem spent_lt_capacity_add_refill (settings : LimiterSettings) (tick : 1 ≤ settings.interval)
    (subject : String) (events : List Event) (earlier between later : List Step) (first last : Step)
    (completes :
      run settings Store.empty events = .ok (earlier ++ first :: (between ++ last :: later)))
    (clock : (events.map (·.now)).Pairwise (· ≤ ·))
    (unswept : ∀ e ∈ events, e.call.isSweep = false)
    (fits : ∀ s ∈ between, ¬s.Saturates)
    (checked : last.call = .check subject) (succeeds : last.outcome = .verdict .success) :
    spent subject between <
      (settings.capacity : Int) +
        settings.perInterval * (Instant.elapsed first.now last.now / settings.interval : Nat) := by
  have hevents := map_toEvent_of_run completes
  obtain ⟨mid, hmid, hrun⟩ := exists_of_run_append
    (fun store => store.health = .sound ∧ ∀ key, Bounded settings (store.buckets.find? key))
    bounded_of_perform ⟨rfl, fun key b hb => by cases hb⟩ completes
  rw [List.map_cons] at hrun
  obtain ⟨outcome, left, steps, hperform, hrest, hsteps⟩ := run_cons_eq_ok hrun
  obtain ⟨-, rfl⟩ := List.cons.inj hsteps
  obtain ⟨hsound, hbounded⟩ := bounded_of_perform hmid hperform
  rw [← hevents, List.map_append, List.map_append, List.pairwise_append, List.map_cons,
    List.map_cons] at clock
  have hlater : ∀ e ∈ (between ++ last :: later).map Step.toEvent, e.call.isSweep = false := by
    intro e he
    refine unswept e ?_
    rw [← hevents, List.map_append, List.map_cons]
    exact List.mem_append_right _ (List.mem_cons_of_mem _ he)
  -- nothing is charged yet after the first of the two calls, so whatever it left covers that
  have hbound : 0 + spent subject between <
      Budget.ofSpan settings.capacity + credit settings first.now last.now :=
    add_spent_lt_of_run tick hsound ⟨hbounded subject, Or.inl rfl⟩ (Int.le_refl _) hrest clock.2.1
      hlater fits checked succeeds
  have hcapacity : Budget.ofSpan settings.capacity ≤ settings.capacity := Budget.ofSpan_le _
  rw [Int.zero_add, credit, Int.natCast_mul] at hbound
  exact Int.lt_of_lt_of_le hbound (Int.add_le_add_right hcapacity _)

/-- A subject with a capacity of ten is charged eight between two checks. -/
theorem spent_eight_lt_capacity_add_refill :
    ∃ first charge last : Step,
      run { capacity := 10, interval := 5, perInterval := 5 } Store.empty
        [⟨0, .check "a"⟩, ⟨4, .charge "a" 8⟩, ⟨9, .check "a"⟩] = .ok [first, charge, last] ∧
      last.outcome = .verdict .success ∧ spent "a" [charge] = 8 ∧
      spent "a" [charge] < 10 + 5 * (Instant.elapsed first.now last.now / 5 : Nat) := by
  refine ⟨_, _, _, rfl, rfl, rfl, ?_⟩
  exact spent_lt_capacity_add_refill { capacity := 10, interval := 5, perInterval := 5 } (by decide)
    "a" [⟨0, .check "a"⟩, ⟨4, .charge "a" 8⟩, ⟨9, .check "a"⟩] [] [_] [] _ _ rfl (by decide)
    (by decide)
    (by
      intro s hs
      obtain rfl := List.mem_singleton.1 hs
      simp [Step.Saturates, Buckets.value]
      decide)
    rfl rfl

end Turnstile.Limiter
