import Turnstile.Proofs.Limiter.Subject
import Turnstile.Proofs.Limiter.Ticks

/-!
# Charges never help

Two runs go over the same instants. The second makes the calls of the first, where some of its
charges are larger, and it makes more charges in between. Then nobody ever has more in its bucket in
the second run.

That is not clear at once, as every charge makes the count of ticks start anew, so that a tick may
be due in the second run at a check at which none is in the first. But then the first run has had
that tick before: it is ahead by the refill for one tick for as long as the other counts from an
earlier instant, which is less than a tick earlier.

## Main definitions

- `Limiter.Moment` — what is asked for at an instant, in both runs or in the second alone
- `Limiter.lighter`, `Limiter.heavier` — the two runs, and `Limiter.common` the calls that they
  share
- `Limiter.Behind` — the invariant that ties the buckets of the two runs to each other

## Main statements

- `Limiter.Behind.onBucket` — what one moment keeps
- `Limiter.charging_monotone` — the second run never has more
-/

namespace Turnstile.Limiter

/-- What two runs ask for: a check in both, a charge in both that is larger by some time in the
second, or a charge in the second alone. -/
inductive Part where
  | check (subject : String)
  | charge (subject : String) (consumed more : Span)
  | extra (subject : String) (consumed : Span)
deriving DecidableEq

/-- What two runs ask for at an instant. -/
structure Moment where
  now : Instant
  part : Part
deriving DecidableEq

namespace Part

/-- What the first run asks for, if it does. -/
def first? : Part → Option Call
  | .check subject => some (.check subject)
  | .charge subject consumed _ => some (.charge subject consumed)
  | .extra _ _ => none

/-- What the second run asks for. -/
def second : Part → Call
  | .check subject => .check subject
  | .charge subject consumed more => .charge subject (consumed + more)
  | .extra subject consumed => .charge subject consumed

theorem second_of_first?_check {part : Part} {subject : String}
    (h : part.first? = some (.check subject)) : part.second = .check subject := by
  cases part with
  | check key => exact Option.some.inj h
  | charge key consumed more => cases Option.some.inj h
  | extra key consumed => cases h

end Part

/-- The calls of the first run. -/
def lighter (moments : List Moment) : List Event :=
  moments.filterMap fun m => m.part.first?.map (⟨m.now, ·⟩)

/-- The calls of the second run. -/
def heavier (moments : List Moment) : List Event :=
  moments.map fun m => ⟨m.now, m.part.second⟩

/-- The steps that the two runs have in common, each with its counterpart. -/
def common : List Moment → List Step → List Step → List (Step × Step)
  | m :: moments, steps, s' :: steps' =>
    match m.part.first?, steps with
    | none, steps => common moments steps steps'
    | some _, s :: steps => (s, s') :: common moments steps steps'
    | some _, [] => []
  | _, _, _ => []

/-- How the bucket of a subject in the first run stands to that in the second. Either the first run
has not asked for the subject yet, and in the second it was charged at most; or the second run has
no more and counts ticks from no earlier; or it counts from less than a tick earlier and the first
is ahead by the refill for one tick, as far as the capacity goes. -/
inductive Behind (settings : LimiterSettings) (now : Instant) : Option Bucket → Option Bucket → Prop
  | unseen {bucket' : Option Bucket}
      (charged : ∀ b', bucket' = some b' → b'.value ≤ 0 ∧ b'.lastModified ≤ now) :
      Behind settings now none bucket'
  | later {b b' : Bucket} (value : b'.value ≤ b.value) (order : b.lastModified ≤ b'.lastModified)
      (clock : b'.lastModified ≤ now) :
      Behind settings now (some b) (some b')
  | earlier {b b' : Bucket}
      (value : min (Budget.ofSpan settings.capacity) (b'.value + refill settings 1) ≤ b.value)
      (order : b'.lastModified ≤ b.lastModified)
      (phase : b.lastModified < b'.lastModified + tickLength settings)
      (clock : b.lastModified ≤ now) :
      Behind settings now (some b) (some b')

variable {settings : LimiterSettings} {subject : String} {now next : Instant}
  {bucket bucket' : Option Bucket} {b b' : Bucket} {m : Moment} {moments : List Moment}
  {store store' : Store} {steps steps' : List Step}

/-! ### What single calls keep -/

theorem Behind.mono (h : Behind settings now bucket bucket') (hle : now ≤ next) :
    Behind settings next bucket bucket' := by
  cases h with
  | unseen charged =>
    exact .unseen fun b' hb' => ⟨(charged b' hb').1, Int.le_trans (charged b' hb').2 hle⟩
  | later value order clock => exact .later value order (Int.le_trans clock hle)
  | earlier value order phase clock => exact .earlier value order phase (Int.le_trans clock hle)

/-- Whichever of the two runs is ahead in its count of ticks, the second has no more. -/
theorem Behind.value_le (h : Behind settings now bucket bucket')
    (hbounded' : Bounded settings bucket') :
    (bucket'.map (·.value)).getD 0 ≤ (bucket.map (·.value)).getD 0 := by
  cases h with
  | unseen charged =>
    cases bucket' with
    | none => exact Int.le_refl _
    | some b' => exact (charged b' rfl).1
  | later value order clock => exact value
  | earlier value order phase clock =>
    have hcapacity := (hbounded' _ rfl).2
    have hrefill := refill_nonneg settings 1
    simp only [Option.map_some, Option.getD_some]
    omega

/-- A subject that the first run sees for the first time is refilled there for more ticks than can
be due in the second. -/
theorem Behind.check_unseen
    (charged : ∀ b', bucket' = some b' → b'.value ≤ 0 ∧ b'.lastModified ≤ now)
    (hbounded' : Bounded settings bucket') :
    Behind settings now (some (refilled settings none now))
      (some (refilled settings bucket' now)) := by
  cases bucket' with
  | none => exact .later (Int.le_refl _) (Int.le_refl _) (Int.le_refl _)
  | some b' =>
    obtain ⟨hdebt, hclock⟩ := charged b' rfl
    rw [refilled_none]
    by_cases hticks : ticksSince settings b'.lastModified now = 0
    · -- the second run may have its next tick sooner, but the first has been given more than one
      have hone : refill settings 1 ≤ refill settings maxTicks := refill_mono (by decide)
      rw [refilled_of_no_tick hticks]
      refine .earlier ?_ hclock (lt_add_tickLength hticks) (Int.le_refl _)
      dsimp only
      omega
    · have hmost : refill settings (ticksSince settings b'.lastModified now) ≤
          refill settings maxTicks := refill_mono ticksSince_le_maxTicks
      rw [refilled_of_ticks hticks (hbounded' b' rfl).1]
      refine .later ?_ (Int.le_refl _) (Int.le_refl _)
      dsimp only
      omega

/-- Where the second run counts from no earlier, the first gets no fewer ticks. If it gets some and
the second none, it is ahead from then on. -/
theorem Behind.check_later (hbounded : Bounded settings (some b))
    (hbounded' : Bounded settings (some b')) (value : b'.value ≤ b.value)
    (order : b.lastModified ≤ b'.lastModified) (clock : b'.lastModified ≤ now) :
    Behind settings now (some (refilled settings (some b) now))
      (some (refilled settings (some b') now)) := by
  have hfewer : ticksSince settings b'.lastModified now ≤ ticksSince settings b.lastModified now :=
    ticksSince_le_ticksSince order
  by_cases hticks : ticksSince settings b.lastModified now = 0
  · have hticks' : ticksSince settings b'.lastModified now = 0 := by omega
    rw [refilled_of_no_tick hticks, refilled_of_no_tick hticks']
    exact .later value order clock
  · rw [refilled_of_ticks hticks (hbounded b rfl).1]
    by_cases hticks' : ticksSince settings b'.lastModified now = 0
    · -- from here on the second run counts from earlier, and the first is ahead by a tick
      have hone : refill settings 1 ≤ refill settings (ticksSince settings b.lastModified now) :=
        refill_mono (by omega)
      rw [refilled_of_no_tick hticks']
      refine .earlier ?_ clock (lt_add_tickLength hticks') (Int.le_refl _)
      dsimp only
      omega
    · have hless : refill settings (ticksSince settings b'.lastModified now) ≤
          refill settings (ticksSince settings b.lastModified now) := refill_mono hfewer
      rw [refilled_of_ticks hticks' (hbounded' b' rfl).1]
      refine .later ?_ (Int.le_refl _) (Int.le_refl _)
      dsimp only
      omega

/-- Where the second run counts from less than a tick earlier, it gets at most one tick more, which
the first had before. -/
theorem Behind.check_earlier (hbounded : Bounded settings (some b))
    (hbounded' : Bounded settings (some b'))
    (value : min (Budget.ofSpan settings.capacity) (b'.value + refill settings 1) ≤ b.value)
    (order : b'.lastModified ≤ b.lastModified)
    (phase : b.lastModified < b'.lastModified + tickLength settings)
    (clock : b.lastModified ≤ now) :
    Behind settings now (some (refilled settings (some b) now))
      (some (refilled settings (some b') now)) := by
  have hmore : ticksSince settings b.lastModified now ≤ ticksSince settings b'.lastModified now :=
    ticksSince_le_ticksSince order
  have hone : ticksSince settings b'.lastModified now ≤
      ticksSince settings b.lastModified now + 1 :=
    ticksSince_le_succ phase
  by_cases hticks' : ticksSince settings b'.lastModified now = 0
  · have hticks : ticksSince settings b.lastModified now = 0 := by omega
    rw [refilled_of_no_tick hticks, refilled_of_no_tick hticks']
    exact .earlier value order phase clock
  · rw [refilled_of_ticks hticks' (hbounded' b' rfl).1]
    by_cases hticks : ticksSince settings b.lastModified now = 0
    · -- the second run catches up by the tick that the first was ahead
      have htick : ticksSince settings b'.lastModified now = 1 := by omega
      rw [refilled_of_no_tick hticks, htick]
      exact .later value clock (Int.le_refl _)
    · have hrefill : refill settings (ticksSince settings b'.lastModified now) ≤
          refill settings (ticksSince settings b.lastModified now) + refill settings 1 :=
        Int.le_trans (refill_mono hone) (refill_succ_le _)
      have hnonneg := refill_nonneg settings (ticksSince settings b.lastModified now)
      rw [refilled_of_ticks hticks (hbounded b rfl).1]
      refine .later ?_ (Int.le_refl _) (Int.le_refl _)
      dsimp only
      omega

theorem Behind.refilled (h : Behind settings now bucket bucket')
    (hbounded : Bounded settings bucket) (hbounded' : Bounded settings bucket') :
    Behind settings now (some (refilled settings bucket now))
      (some (Limiter.refilled settings bucket' now)) := by
  cases h with
  | unseen charged => exact .check_unseen charged hbounded'
  | later value order clock => exact .check_later hbounded hbounded' value order clock
  | earlier value order phase clock =>
    exact .check_earlier hbounded hbounded' value order phase clock

theorem Behind.charged (h : Behind settings now bucket bucket')
    (hbounded' : Bounded settings bucket') (consumed more : Span) :
    Behind settings now (some (charged bucket consumed now))
      (some (Limiter.charged bucket' (consumed + more) now)) := by
  have hvalue := h.value_le hbounded'
  have hmore : Budget.ofSpan consumed ≤ Budget.ofSpan (consumed + more) :=
    Budget.ofSpan_mono (Nat.le_add_right _ _)
  exact .later (Budget.clamp_mono (by omega)) (Int.le_refl _) (Int.le_refl _)

/-- A charge in the second run alone makes it count from now on. -/
theorem Behind.charged_extra (h : Behind settings now bucket bucket')
    (hbounded : Bounded settings bucket) (hbounded' : Bounded settings bucket') (consumed : Span) :
    Behind settings now bucket (some (Limiter.charged bucket' consumed now)) := by
  have hvalue := h.value_le hbounded'
  have hconsumed := Budget.ofSpan_nonneg consumed
  cases bucket with
  | none =>
    refine .unseen fun c hc => ?_
    obtain rfl := Option.some.inj hc
    refine ⟨?_, Int.le_refl _⟩
    rw [Option.map_none, Option.getD_none] at hvalue
    exact Budget.clamp_mono (n := 0) (by omega)
  | some b =>
    rw [Option.map_some, Option.getD_some] at hvalue
    have hclamp : Budget.clamp b.value ≤ b.value := Budget.clamp_le (hbounded b rfl).1
    have hclock : b.lastModified ≤ now := by
      cases h with
      | later value order clock => exact Int.le_trans order clock
      | earlier value order phase clock => exact clock
    refine .later (Int.le_trans (Budget.clamp_mono ?_) hclamp) hclock (Int.le_refl _)
    omega

/-- What is asked for at one moment keeps the second run behind the first. -/
theorem Behind.onBucket (h : Behind settings now bucket bucket')
    (hbounded : Bounded settings bucket) (hbounded' : Bounded settings bucket') (part : Part) :
    Behind settings now
      (part.first?.elim bucket fun call => call.onBucket settings subject now bucket)
      (part.second.onBucket settings subject now bucket') := by
  cases part with
  | check key =>
    simp only [Part.first?, Part.second, Option.elim_some, Call.onBucket]
    split
    · exact h.refilled hbounded hbounded'
    · exact h
  | charge key consumed more =>
    simp only [Part.first?, Part.second, Option.elim_some, Call.onBucket]
    split
    · exact h.charged hbounded' consumed more
    · exact h
  | extra key consumed =>
    simp only [Part.first?, Part.second, Option.elim_none, Call.onBucket]
    split
    · exact h.charged_extra hbounded hbounded' consumed
    · exact h

/-! ### Runs -/

theorem limited_of_le {remaining remaining' : Int} (hle : remaining' ≤ remaining)
    (h : Verdict.ofRemaining remaining = .rateLimited) :
    Verdict.ofRemaining remaining' = .rateLimited := by
  unfold Verdict.ofRemaining at h ⊢
  split at h
  · exact if_pos (by omega)
  · cases h

theorem limited_of_perform {outcome outcome' : Outcome} {after after' : Store}
    (sound : store.health = .sound) (sound' : store'.health = .sound)
    (behind : Behind settings now (store.buckets.find? subject) (store'.buckets.find? subject))
    (bounded : Bounded settings (store.buckets.find? subject))
    (bounded' : Bounded settings (store'.buckets.find? subject))
    (h : (Call.check subject).perform settings store now = .ok (outcome, after))
    (h' : (Call.check subject).perform settings store' now = .ok (outcome', after'))
    (limited : outcome = .verdict .rateLimited) : outcome' = .verdict .rateLimited := by
  rw [outcome_of_perform_check sound h] at limited
  rw [outcome_of_perform_check sound' h']
  have hvalue := (behind.refilled bounded bounded').value_le (bounded_refilled bounded')
  exact congrArg Outcome.verdict (limited_of_le hvalue (Outcome.verdict.inj limited))

theorem lighter_cons_of_none (h : m.part.first? = none) :
    lighter (m :: moments) = lighter moments := by
  rw [lighter, List.filterMap_cons, h]
  rfl

theorem lighter_cons_of_some {call : Call} (h : m.part.first? = some call) :
    lighter (m :: moments) = ⟨m.now, call⟩ :: lighter moments := by
  rw [lighter, List.filterMap_cons, h]
  rfl

/-- What one step of the first run and its counterpart in the second have to do with each other. -/
structure Step.Paired (subject : String) (s s' : Step) : Prop where
  now : s'.now = s.now
  value_le : s'.after.buckets.value subject ≤ s.after.buckets.value subject
  limited : s.call = .check subject → s.outcome = .verdict .rateLimited →
    s'.call = .check subject ∧ s'.outcome = .verdict .rateLimited

/-- While the second run is behind, every step of the first has its counterpart there. -/
theorem paired_of_run (sound : store.health = .sound) (sound' : store'.health = .sound)
    (behind : Behind settings now (store.buckets.find? subject) (store'.buckets.find? subject))
    (bounded : Bounded settings (store.buckets.find? subject))
    (bounded' : Bounded settings (store'.buckets.find? subject))
    (clock : (now :: moments.map (·.now)).Pairwise (· ≤ ·))
    (h : run settings store (lighter moments) = .ok steps)
    (h' : run settings store' (heavier moments) = .ok steps') :
    (common moments steps steps').map (·.1) = steps ∧
      ∀ pair ∈ common moments steps steps', pair.1.Paired subject pair.2 := by
  -- on the moments, with the stores that the two runs have come to
  induction moments generalizing store store' now steps steps' with
  | nil =>
    obtain rfl := Except.ok.inj h
    exact ⟨rfl, fun pair hpair => absurd hpair List.not_mem_nil⟩
  | cons m rest ih =>
    obtain ⟨hclock, clock⟩ := List.pairwise_cons.1 clock
    have hnow : now ≤ m.now := hclock _ List.mem_cons_self
    obtain ⟨outcome', after', steps', hperform', hrest', rfl⟩ := run_cons_eq_ok h'
    obtain ⟨hsound', hfind'⟩ := find?_of_perform sound' hperform'
    have hbounded' : Bounded settings (after'.buckets.find? subject) := by
      rw [hfind']
      exact bounded_onBucket bounded' m.part.second
    have hstep : Behind settings m.now
        (m.part.first?.elim (store.buckets.find? subject) fun call =>
          call.onBucket settings subject m.now (store.buckets.find? subject))
        (after'.buckets.find? subject) := by
      rw [hfind']
      exact (behind.mono hnow).onBucket bounded bounded' m.part
    cases hfirst : m.part.first? with
    | none =>
      rw [lighter_cons_of_none hfirst] at h
      rw [hfirst] at hstep
      simp only [common, hfirst]
      exact ih sound hsound' hstep bounded hbounded' clock h hrest'
    | some call =>
      rw [lighter_cons_of_some hfirst] at h
      obtain ⟨outcome, after, steps, hperform, hrest, rfl⟩ := run_cons_eq_ok h
      obtain ⟨hsound, hfind⟩ := find?_of_perform sound hperform
      have hbounded : Bounded settings (after.buckets.find? subject) := by
        rw [hfind]
        exact bounded_onBucket bounded call
      rw [hfirst, Option.elim_some, ← hfind] at hstep
      obtain ⟨hall, hpaired⟩ := ih hsound hsound' hstep hbounded hbounded' clock hrest hrest'
      simp only [common, hfirst]
      refine ⟨congrArg (List.cons _) hall, fun pair hpair => ?_⟩
      rcases List.mem_cons.1 hpair with rfl | hpair
      · refine ⟨rfl, hstep.value_le hbounded', fun checked limited => ?_⟩
        obtain rfl : call = .check subject := checked
        have hsecond : m.part.second = .check subject := Part.second_of_first?_check hfirst
        refine ⟨hsecond, ?_⟩
        have hcheck : (Call.check subject).perform settings store' m.now =
            .ok (outcome', after') := by
          rw [← hsecond]
          exact hperform'
        exact limited_of_perform sound sound'
          (behind.mono hnow) bounded bounded' hperform hcheck limited
      · exact hpaired pair hpair

theorem Part.isSweep_second (part : Part) : part.second.isSweep = false := by
  cases part <;> rfl

theorem Part.isSweep_of_first? {part : Part} {call : Call} (h : part.first? = some call) :
    call.isSweep = false := by
  cases part with
  | check key =>
    obtain rfl := Option.some.inj h
    rfl
  | charge key consumed more =>
    obtain rfl := Option.some.inj h
    rfl
  | extra key consumed => cases h

theorem exists_of_mem_lighter {e : Event} (h : e ∈ lighter moments) :
    ∃ m ∈ moments, e.now = m.now ∧ m.part.first? = some e.call := by
  obtain ⟨m, hm, he⟩ := List.mem_filterMap.1 h
  obtain ⟨call, hcall, rfl⟩ := Option.map_eq_some_iff.1 he
  exact ⟨m, hm, rfl, hcall⟩

/-- **Charges never help.** Two runs go over the same instants, on a clock that does not go back and
can be read, and without sweeps. The second makes the calls of the first, with some charges enlarged
and others added. Both end, and each step of the first has its counterpart in the second. After it,
a subject that had no bucket when the runs began has no more there than in the first run, and when
it is limited in the first run, so it is in the second. -/
theorem charging_monotone (settings : LimiterSettings) (subject : String) (store store' : Store)
    (moments : List Moment) (sound : store.health = .sound) (sound' : store'.health = .sound)
    (unseen : store.buckets.find? subject = none) (unseen' : store'.buckets.find? subject = none)
    (clock : (moments.map (·.now)).Pairwise (· ≤ ·))
    (readable : ∀ m ∈ moments, m.now ≤ Instant.last) :
    ∃ steps steps', run settings store (lighter moments) = .ok steps ∧
      run settings store' (heavier moments) = .ok steps' ∧
      (common moments steps steps').map (·.1) = steps ∧
      ∀ pair ∈ common moments steps steps', pair.1.Paired subject pair.2 := by
  obtain ⟨steps, hrun⟩ : ∃ steps, run settings store (lighter moments) = .ok steps := by
    refine exists_run sound (fun e he => ?_) fun e he => ?_
    · obtain ⟨m, hm, hnow, -⟩ := exists_of_mem_lighter he
      exact hnow ▸ readable m hm
    · obtain ⟨m, -, -, hfirst⟩ := exists_of_mem_lighter he
      exact Part.isSweep_of_first? hfirst
  obtain ⟨steps', hrun'⟩ : ∃ steps', run settings store' (heavier moments) = .ok steps' := by
    refine exists_run sound' (fun e he => ?_) fun e he => ?_
    · obtain ⟨m, hm, rfl⟩ := List.mem_map.1 he
      exact readable m hm
    · obtain ⟨m, -, rfl⟩ := List.mem_map.1 he
      exact m.part.isSweep_second
  refine ⟨steps, steps', hrun, hrun', ?_⟩
  cases moments with
  | nil =>
    obtain rfl := Except.ok.inj hrun
    exact ⟨rfl, fun pair hpair => absurd hpair List.not_mem_nil⟩
  | cons m rest =>
    -- the clock of the first moment bounds the others, and itself
    have hclock : (m.now :: (m :: rest).map (·.now)).Pairwise (· ≤ ·) := by
      refine List.pairwise_cons.2 ⟨fun t ht => ?_, clock⟩
      rcases List.mem_cons.1 ht with rfl | ht
      · exact Int.le_refl _
      · exact (List.pairwise_cons.1 clock).1 t ht
    have hbehind : Behind settings m.now (store.buckets.find? subject)
        (store'.buckets.find? subject) := by
      rw [unseen, unseen']
      exact .unseen nofun
    exact paired_of_run sound sound' hbehind (by rw [unseen]; nofun) (by rw [unseen']; nofun) hclock
      hrun hrun'

/-- A debt of ten, one more in the second run, where the ticks of ten count from four on. -/
def phased : List Moment :=
  [⟨0, .check "a"⟩, ⟨0, .charge "a" 110 0⟩, ⟨4, .extra "a" 1⟩, ⟨13, .check "a"⟩, ⟨14, .check "a"⟩]

/-- At the first of the last two checks only the first run has a tick, at the second one only the
other. Both are limited in both runs. -/
theorem phased_never_helped :
    ∃ steps steps', run { capacity := 100, interval := 10, perInterval := 10 } Store.empty
        (lighter phased) = .ok steps ∧
      run { capacity := 100, interval := 10, perInterval := 10 } Store.empty
        (heavier phased) = .ok steps' ∧
      steps.map (·.after.buckets.value "a") = [100, -10, 0, 0] ∧
      steps'.map (·.after.buckets.value "a") = [100, -10, -11, -11, -1] ∧
      ∀ pair ∈ common phased steps steps', pair.1.Paired "a" pair.2 := by
  obtain ⟨steps, steps', hrun, hrun', -, hpaired⟩ :=
    charging_monotone { capacity := 100, interval := 10, perInterval := 10 }
      "a" Store.empty Store.empty
      phased rfl rfl rfl rfl (by decide) (by decide)
  refine ⟨steps, steps', hrun, hrun', ?_, ?_, hpaired⟩
  · obtain rfl := Except.ok.inj hrun
    decide +kernel
  · obtain rfl := Except.ok.inj hrun'
    decide +kernel

end Turnstile.Limiter
