import Turnstile.Proofs.Limiter.Run

/-!
# Checks that overlap

A check reads when its bucket was last written and then refills it, and between these two steps
another check of the same subject may take its own. Checks that take place one after the other at
one instant share the refill that is due. Checks that overlap have both counted the ticks before the
bucket is written, and each of them gives the refill.

## Main definitions

- `Limiter.Progress` — how far a check has got
- `Limiter.Race`, `Limiter.Race.run` — two checks of one subject on one store, step by step
- `Limiter.Overlaps` — schedules in which both checks have begun before either has ended

## Main statements

- `Limiter.step_step_waiting` — the two steps of a check, with nothing in between, are the check
- `Limiter.overlap_le_iff` — when checks that overlap leave more than checks in turn
-/

namespace Turnstile.Limiter

/-- How far a check has got. -/
inductive Progress where
  | waiting
  | counted (ticks : Nat)
  | decided (v : Verdict)
deriving DecidableEq

/-- Takes a check one step on. -/
def Progress.step (settings : LimiterSettings) (subject : String) (now : Instant) (store : Store) :
    Progress → Except Failure (Progress × Store)
  | .waiting => do return (.counted (← readTicks settings store subject now), store)
  | .counted ticks => do
    let (remaining, store) ← applyTicks settings store subject ticks now
    return (.decided (Verdict.ofRemaining remaining), store)
  | .decided v => .ok (.decided v, store)

inductive Party where
  | first
  | second
deriving DecidableEq

def Party.other : Party → Party
  | .first => .second
  | .second => .first

/-- Two checks of one subject on one store. -/
structure Race where
  progress : Party → Progress := fun _ => .waiting
  store : Store

namespace Race

def step (settings : LimiterSettings) (subject : String) (now : Instant) (r : Race) (p : Party) :
    Except Failure Race := do
  let (progress, store) ← (r.progress p).step settings subject now r.store
  return ⟨fun q => if q = p then progress else r.progress q, store⟩

/-- The checks take steps as a schedule says, while the clock stands still. -/
def run (settings : LimiterSettings) (subject : String) (now : Instant) :
    Race → List Party → Except Failure Race
  | r, [] => .ok r
  | r, p :: rest => do run settings subject now (← r.step settings subject now p) rest

end Race

/-- Two steps of each check, in any order. -/
def Interleaves (schedule : List Party) : Prop :=
  schedule.Perm [.first, .first, .second, .second]

/-- The other check takes its first step before the one that began has taken its second. -/
def Overlaps (schedule : List Party) : Prop :=
  ∃ p rest, schedule = p :: p.other :: rest

/-- A bucket after a refill for some ticks, if there are any. -/
def applied (settings : LimiterSettings) (b : Bucket) (ticks : Nat) (now : Instant) : Bucket :=
  if ticks = 0 then b else toppedUp settings (some b) ticks now

variable {settings : LimiterSettings} {subject : String} {now : Instant}
  {store : Store} {b : Bucket}
  {ticks : Nat} {p q : Party} {schedule : List Party}

theorem other_ne (p : Party) : p.other ≠ p := by
  cases p <;> decide

@[simp] theorem other_other (p : Party) : p.other.other = p := by
  cases p <;> rfl

theorem eq_or_eq_other (p q : Party) : q = p ∨ q = p.other := by
  cases p <;> cases q <;> decide

theorem not_overlaps (p : Party) (rest : List Party) : ¬Overlaps (p :: p :: rest) := by
  rintro ⟨q, rest', heq⟩
  obtain ⟨rfl, heq⟩ := List.cons.inj heq
  exact other_ne p (List.cons.inj heq).1.symm

/-- Either one check ends before the other begins, or both begin before either ends. -/
theorem cases_of_interleaves (h : Interleaves schedule) :
    (∃ p, schedule = [p, p, p.other, p.other]) ∨ ∃ p q, schedule = [p, p.other, q, q.other] := by
  unfold Interleaves at h
  match schedule, h.length_eq with
  | [a, b, c, d], _ =>
    -- of the sixteen schedules of this length, six have two steps of each check
    cases a <;> cases b <;> cases c <;> cases d <;>
      first
      | exact absurd h (by decide)
      | exact Or.inl ⟨_, rfl⟩
      | exact Or.inr ⟨_, _, rfl⟩

/-! ### Steps -/

/-- A check whose two steps follow on each other is a check. -/
theorem step_step_waiting (settings : LimiterSettings) (subject : String) (now : Instant)
    (store : Store) :
    (do
      let (counted, store) ← Progress.waiting.step settings subject now store
      counted.step settings subject now store) =
    (do
      let (v, store) ← checkSubject settings store subject now
      return (.decided v, store)) := by
  unfold checkSubject Progress.step
  cases readTicks settings store subject now with
  | error e => rfl
  | ok ticks =>
    simp only [bind, Except.bind, pure, Except.pure]
    cases applyTicks settings store subject ticks now <;> rfl

/-- The store of a race is sound, and the subject has this bucket there. -/
def Race.Holds (subject : String) (r : Race) (b : Bucket) : Prop :=
  r.store.health = .sound ∧ r.store.buckets.find? subject = some b

/-- The first step of a check counts the ticks since the bucket was written, and writes nothing. -/
theorem exists_step_waiting (settings : LimiterSettings) {r : Race} (h : r.Holds subject b)
    (hnow : now ≤ Instant.last) (hp : r.progress p = .waiting) :
    ∃ r', r.step settings subject now p = .ok r' ∧ r'.Holds subject b ∧
      r'.progress p = .counted (ticksSince settings b.lastModified now) ∧
      r'.progress p.other = r.progress p.other := by
  obtain ⟨sound, found⟩ := h
  have hread : readTicks settings r.store subject now =
      .ok (ticksSince settings b.lastModified now) := by
    rw [readTicks_of_works (Store.works_of_sound sound _) hnow, found]
    rfl
  refine ⟨⟨fun q => if q = p then .counted (ticksSince settings b.lastModified now)
    else r.progress q, r.store⟩, ?_, ⟨sound, found⟩, if_pos rfl, if_neg (other_ne p)⟩
  rw [Race.step, hp, Progress.step, hread]
  rfl

/-- The second step of a check refills the bucket for the ticks that were counted in the first. -/
theorem exists_step_counted (settings : LimiterSettings) {r : Race} (h : r.Holds subject b)
    (hnow : now ≤ Instant.last) (hp : r.progress p = .counted ticks) :
    ∃ r', r.step settings subject now p = .ok r' ∧ r'.Holds subject (applied settings b ticks now) ∧
      (∃ v, r'.progress p = .decided v) ∧ r'.progress p.other = r.progress p.other := by
  obtain ⟨sound, found⟩ := h
  obtain ⟨remaining, left, happly, hsound, hfound⟩ : ∃ remaining left,
      applyTicks settings r.store subject ticks now = .ok (remaining, left) ∧
        left.health = .sound ∧
        left.buckets.find? subject = some (applied settings b ticks now) := by
    unfold applied
    by_cases hticks : ticks = 0
    · rw [hticks, applyTicks_zero (Store.works_of_sound sound _), if_pos rfl]
      exact ⟨_, _, rfl, sound, found⟩
    · rw [applyTicks_of_pos (Store.works_of_sound sound _) hnow (Nat.pos_of_ne_zero hticks),
        if_neg hticks, found]
      refine ⟨_, _, rfl, sound, ?_⟩
      rw [Buckets.find?_set, if_pos rfl]
  refine ⟨⟨fun q => if q = p then .decided (Verdict.ofRemaining remaining) else r.progress q, left⟩,
    ?_, ⟨hsound, hfound⟩, ⟨_, if_pos rfl⟩, if_neg (other_ne p)⟩
  rw [Race.step, hp, Progress.step, happly]
  rfl

/-! ### Two checks -/

/-- At one instant, a bucket that has been refilled is not refilled again. -/
theorem applied_applied (b : Bucket) (now : Instant) :
    applied settings (applied settings b (ticksSince settings b.lastModified now) now)
        (ticksSince settings
          (applied settings b (ticksSince settings b.lastModified now) now).lastModified now) now =
      applied settings b (ticksSince settings b.lastModified now) now := by
  by_cases hticks : ticksSince settings b.lastModified now = 0
  · have hsame : applied settings b (ticksSince settings b.lastModified now) now = b :=
      if_pos hticks
    rw [hsame]
    exact hsame
  · have hnone : ticksSince settings now now = 0 := by
      simp [ticksSince, Instant.elapsed]
    have hmodified :
        (applied settings b (ticksSince settings b.lastModified now) now).lastModified = now := by
      unfold applied
      rw [if_neg hticks]
      rfl
    rw [hmodified, hnone]
    exact if_pos rfl

theorem value_applied (settings : LimiterSettings) (hleast : Budget.least ≤ b.value) (ticks : Nat)
    (now : Instant) :
    (applied settings b ticks now).value =
      if ticks = 0 then b.value
      else min (Budget.ofSpan settings.capacity) (b.value + refill settings ticks) := by
  have htopped : (toppedUp settings (some b) ticks now).value =
      min (Budget.ofSpan settings.capacity) (b.value + refill settings ticks) :=
    value_toppedUp (some b) hleast ticks
  unfold applied
  split
  · rfl
  · exact htopped

/-- A second refill for the same ticks adds nothing exactly if the ticks are worth nothing, or the
first has filled the bucket; and it never adds more than the ticks are worth. -/
theorem value_applied_applied_le (settings : LimiterSettings) (hleast : Budget.least ≤ b.value)
    (ticks : Nat) (now : Instant) :
    ((applied settings (applied settings b ticks now) ticks now).value ≤
        (applied settings b ticks now).value ↔
      refill settings ticks = 0 ∨
        Budget.ofSpan settings.capacity ≤ b.value + refill settings ticks) ∧
    (applied settings (applied settings b ticks now) ticks now).value ≤
      (applied settings b ticks now).value + refill settings ticks := by
  by_cases hticks : ticks = 0
  · have hnothing : refill settings 0 = 0 := rfl
    have hsame : ∀ b, applied settings b 0 now = b := fun b => if_pos rfl
    rw [hticks, hsame, hsame, hnothing]
    omega
  · have hrefill : 0 ≤ refill settings ticks := Budget.ofSpan_nonneg _
    have hcapacity : Budget.least ≤ Budget.ofSpan settings.capacity :=
      Int.le_trans (by decide) (Budget.ofSpan_nonneg _)
    have honce := value_applied settings hleast ticks now
    rw [if_neg hticks] at honce
    have hleast' : Budget.least ≤ (applied settings b ticks now).value := by
      rw [honce]
      omega
    have htwice := value_applied settings hleast' ticks now
    rw [if_neg hticks, honce] at htwice
    rw [honce, htwice]
    omega

theorem exists_run_inTurn {r : Race} (h : r.Holds subject b) (hnow : now ≤ Instant.last)
    (waiting : ∀ p, r.progress p = .waiting) (p : Party) :
    ∃ r', Race.run settings subject now r [p, p, p.other, p.other] = .ok r' ∧
      (∀ q, ∃ v, r'.progress q = .decided v) ∧
      r'.Holds subject (applied settings b (ticksSince settings b.lastModified now) now) := by
  obtain ⟨r₁, hr₁, hb₁, hp₁, ho₁⟩ := exists_step_waiting settings h hnow (waiting p)
  obtain ⟨r₂, hr₂, hb₂, ⟨v, hp₂⟩, ho₂⟩ := exists_step_counted settings hb₁ hnow hp₁
  obtain ⟨r₃, hr₃, hb₃, hp₃, ho₃⟩ := exists_step_waiting settings hb₂ hnow
    (ho₂.trans (ho₁.trans (waiting p.other)))
  obtain ⟨r₄, hr₄, hb₄, ⟨v', hp₄⟩, ho₄⟩ := exists_step_counted settings hb₃ hnow hp₃
  rw [other_other] at ho₃ ho₄
  refine ⟨r₄, ?_, fun q => ?_, ?_⟩
  · simp only [Race.run, hr₁, hr₂, hr₃, hr₄, bind, Except.bind]
  · rcases eq_or_eq_other p q with rfl | rfl
    · exact ⟨v, ho₄.trans (ho₃.trans hp₂)⟩
    · exact ⟨v', hp₄⟩
  · rw [← applied_applied b now]
    exact hb₄

/-- Checks that overlap refill the bucket twice for the same ticks. -/
theorem exists_run_overlap {r : Race} (h : r.Holds subject b) (hnow : now ≤ Instant.last)
    (waiting : ∀ p, r.progress p = .waiting) (p q : Party) :
    ∃ r', Race.run settings subject now r [p, p.other, q, q.other] = .ok r' ∧
      (∀ q, ∃ v, r'.progress q = .decided v) ∧
      r'.Holds subject (applied settings
        (applied settings b (ticksSince settings b.lastModified now) now)
        (ticksSince settings b.lastModified now) now) := by
  obtain ⟨r₁, hr₁, hb₁, hp₁, ho₁⟩ := exists_step_waiting settings h hnow (waiting p)
  obtain ⟨r₂, hr₂, hb₂, hp₂, ho₂⟩ := exists_step_waiting settings hb₁ hnow
    (ho₁.trans (waiting p.other))
  rw [other_other] at ho₂
  -- neither has written anything yet, so both have counted the same ticks
  have hcounted : ∀ q, r₂.progress q = .counted (ticksSince settings b.lastModified now) := by
    intro q
    rcases eq_or_eq_other p q with rfl | rfl
    · exact ho₂.trans hp₁
    · exact hp₂
  obtain ⟨r₃, hr₃, hb₃, ⟨v, hp₃⟩, ho₃⟩ := exists_step_counted settings hb₂ hnow
    (hcounted q)
  obtain ⟨r₄, hr₄, hb₄, ⟨v', hp₄⟩, ho₄⟩ := exists_step_counted settings hb₃ hnow
    (ho₃.trans (hcounted q.other))
  rw [other_other] at ho₄
  refine ⟨r₄, ?_, fun q' => ?_, hb₄⟩
  · simp only [Race.run, hr₁, hr₂, hr₃, hr₄, bind, Except.bind]
  · rcases eq_or_eq_other q q' with rfl | rfl
    · exact ⟨v, ho₄.trans hp₃⟩
    · exact ⟨v', hp₄⟩

theorem exists_check_check (settings : LimiterSettings) (sound : store.health = .sound)
    (found : store.buckets.find? subject = some b) (hnow : now ≤ Instant.last) :
    ∃ v once v' twice, checkSubject settings store subject now = .ok (v, once) ∧
      checkSubject settings once subject now = .ok (v', twice) ∧
      twice.buckets.find? subject =
        some (applied settings b (ticksSince settings b.lastModified now) now) := by
  have hrefilled : ∀ b, refilled settings (some b) now =
      applied settings b (ticksSince settings b.lastModified now) now := fun b => rfl
  refine ⟨_, _, _, _, checkSubject_of_sound sound hnow, checkSubject_of_sound sound hnow, ?_⟩
  dsimp only
  rw [Buckets.find?_set, if_pos rfl, Buckets.find?_set, if_pos rfl, found, hrefilled, hrefilled,
    applied_applied]

/-- **Checks that overlap give a refill twice.** Two checks of a subject that has a bucket take
their steps in some order, while the clock stands still. They leave no more in the bucket than two
checks one after the other, exactly if they do not overlap, or if the refill that is due is nothing
or fills the bucket. What they leave too much is at most that refill. -/
theorem overlap_le_iff (settings : LimiterSettings) (subject : String) (store : Store) (b : Bucket)
    (now : Instant) (schedule : List Party) (sound : store.health = .sound)
    (found : store.buckets.find? subject = some b) (hleast : Budget.least ≤ b.value)
    (hnow : now ≤ Instant.last) (interleaves : Interleaves schedule) :
    ∃ race v once v' twice,
      Race.run settings subject now { store := store } schedule = .ok race ∧
      (∀ p, ∃ v, race.progress p = .decided v) ∧
      checkSubject settings store subject now = .ok (v, once) ∧
      checkSubject settings once subject now = .ok (v', twice) ∧
      (race.store.buckets.value subject ≤ twice.buckets.value subject ↔
        ¬Overlaps schedule ∨ refill settings (ticksSince settings b.lastModified now) = 0 ∨
          Budget.ofSpan settings.capacity ≤
            b.value + refill settings (ticksSince settings b.lastModified now)) ∧
      race.store.buckets.value subject ≤
        twice.buckets.value subject + refill settings (ticksSince settings b.lastModified now) := by
  obtain ⟨v, once, v', twice, honce, htwice, hfound⟩ :=
    exists_check_check settings sound found hnow
  have hrefill : 0 ≤ refill settings (ticksSince settings b.lastModified now) :=
    Budget.ofSpan_nonneg _
  have hinTurn : twice.buckets.value subject =
      (applied settings b (ticksSince settings b.lastModified now) now).value := by
    rw [Buckets.value, hfound]
    rfl
  rcases cases_of_interleaves interleaves with ⟨p, rfl⟩ | ⟨p, q, rfl⟩
  · obtain ⟨race, hrun, hdecided, -, hrace⟩ :=
      exists_run_inTurn (r := { store := store }) ⟨sound, found⟩ hnow (fun p => rfl) p
    have hvalue : race.store.buckets.value subject = twice.buckets.value subject := by
      rw [hinTurn, Buckets.value, hrace]
      rfl
    refine ⟨race, v, once, v', twice, hrun, hdecided, honce, htwice, ?_, ?_⟩
    · exact iff_of_true (Int.le_of_eq hvalue) (Or.inl (not_overlaps p _))
    · omega
  · obtain ⟨race, hrun, hdecided, -, hrace⟩ :=
      exists_run_overlap (r := { store := store }) ⟨sound, found⟩ hnow (fun p => rfl) p q
    have hoverlaps : Overlaps [p, p.other, q, q.other] := ⟨p, _, rfl⟩
    have hvalue : race.store.buckets.value subject =
        (applied settings (applied settings b (ticksSince settings b.lastModified now) now)
          (ticksSince settings b.lastModified now) now).value := by
      rw [Buckets.value, hrace]
      rfl
    refine ⟨race, v, once, v', twice, hrun, hdecided, honce, htwice, ?_⟩
    rw [hvalue, hinTurn]
    obtain ⟨hle, hadd⟩ :=
      value_applied_applied_le settings hleast (ticksSince settings b.lastModified now) now
    exact ⟨hle.trans (by simp [hoverlaps]), hadd⟩

/-- A bucket that is filled by one refill is not filled further by a second one. -/
theorem overlap_le_full :
    ∃ race v once v' twice,
      Race.run { capacity := 100, interval := 10, perInterval := 10 } "a" 10
        { store := ⟨.sound, Buckets.empty.set "a" ⟨95, 0⟩⟩ } [.first, .second, .first, .second] =
          .ok race ∧
      checkSubject { capacity := 100, interval := 10, perInterval := 10 }
        ⟨.sound, Buckets.empty.set "a" ⟨95, 0⟩⟩ "a" 10 = .ok (v, once) ∧
      checkSubject { capacity := 100, interval := 10, perInterval := 10 } once "a" 10 =
        .ok (v', twice) ∧
      race.store.buckets.value "a" ≤ twice.buckets.value "a" := by
  have found : (Buckets.empty.set "a" ⟨95, 0⟩).find? "a" = some ⟨95, 0⟩ := by
    rw [Buckets.find?_set, if_pos rfl]
  obtain ⟨race, v, once, v', twice, hrun, -, honce, htwice, hiff, -⟩ :=
    overlap_le_iff { capacity := 100, interval := 10, perInterval := 10 } "a"
      ⟨.sound, Buckets.empty.set "a" ⟨95, 0⟩⟩ ⟨95, 0⟩ 10
        [.first, .second, .first, .second] rfl found
      (by decide) (by decide) (by unfold Interleaves; decide)
  exact ⟨race, v, once, v', twice, hrun, honce, htwice, hiff.2 (Or.inr (Or.inr (by decide)))⟩

/-- A subject that owes fifteen nanoseconds is given ten for the one tick that has passed if it is
checked twice in turn, and is not let through. If the checks overlap it is given twenty, and one of
them lets it through. -/
theorem overlap_gives_twice :
    ∃ race v once v' twice,
      Race.run { capacity := 100, interval := 10, perInterval := 10 } "a" 10
        { store := ⟨.sound, Buckets.empty.set "a" ⟨-15, 0⟩⟩ } [.first, .second, .first, .second] =
          .ok race ∧
      checkSubject { capacity := 100, interval := 10, perInterval := 10 }
        ⟨.sound, Buckets.empty.set "a" ⟨-15, 0⟩⟩ "a" 10 = .ok (v, once) ∧
      checkSubject { capacity := 100, interval := 10, perInterval := 10 } once "a" 10 =
        .ok (v', twice) ∧
      ¬race.store.buckets.value "a" ≤ twice.buckets.value "a" ∧
      twice.buckets.value "a" = -5 ∧ v = .rateLimited ∧ v' = .rateLimited ∧
      race.store.buckets.value "a" = 5 ∧ race.progress .second = .decided .success := by
  refine ⟨_, _, _, _, _, rfl, rfl, rfl, ?_⟩
  decide +kernel

end Turnstile.Limiter
