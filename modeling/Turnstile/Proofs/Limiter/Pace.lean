import Turnstile.Proofs.Limiter.Subject

/-!
# The pace at which a subject is let through

A subject takes turns: each time it is checked, and when its request is done it is charged. Every
charge writes the bucket, and ticks are counted from the last write. So a turn pays for itself only
by the whole intervals that pass between the end of its request and the next check: the time that a
request takes, and what is left over of an interval, is never refilled.

## Main definitions

- `Limiter.Turn` — a check, and a charge for the time up to the end of the request
- `Limiter.gains` — what a subject has gained from each check to the next
- `Limiter.WithinRate` — a pace that does not exceed the rate of refill

## Main statements

- `Limiter.never_limited_iff` — the paces at which a subject is never limited
-/

namespace Turnstile.Limiter

/-- A check and, for the time that the request takes, a charge when it is done. -/
structure Turn where
  start : Instant
  time : Span
deriving DecidableEq

def Turn.finish (t : Turn) : Instant := t.start + (t.time : Int)

/-- What the limiter is asked for in a turn. -/
def Turn.calls (subject : String) (t : Turn) : List Event :=
  [⟨t.start, .check subject⟩, ⟨t.finish, .charge subject t.time⟩]

/-- Each turn with the one that follows it. -/
def consecutive (turns : List Turn) : List (Turn × Turn) :=
  turns.zip turns.tail

/-- What a subject has gained from each check to the next: the refill that is due there, less the
charge before it. -/
def gains (settings : LimiterSettings) (turns : List Turn) : List Int :=
  (consecutive turns).map fun (t, next) =>
    refill settings (ticksSince settings t.finish next.start) - Budget.ofSpan t.time

/-- Turns one after the other, none of which takes longer than the rate of refill makes up for until
the next one begins, or than leaves room in the bucket for a refill. -/
structure WithinRate (settings : LimiterSettings) (turns : List Turn) : Prop where
  positive : 0 < settings.capacity ∧ 0 < settings.interval ∧ 0 < settings.perInterval
  in_turn : ∀ pair ∈ consecutive turns,
    pair.1.start < pair.2.start ∧ pair.1.finish ≤ pair.2.start
  rate : ∀ pair ∈ consecutive turns,
    (pair.1.time * settings.interval : Int) ≤ settings.perInterval * (pair.2.start - pair.1.start)
  room : ∀ t ∈ turns, t.time + settings.perInterval ≤ settings.capacity

/-- A balance that is cut off at a capacity stays positive under some gains. -/
def Solvent (cap : Int) : Int → List Int → Prop
  | balance, [] => 0 < balance
  | balance, gain :: rest => 0 < balance ∧ Solvent cap (min cap (balance + gain)) rest

variable {settings : LimiterSettings} {subject : String} {store : Store} {events : List Event}
  {turns : List Turn} {steps : List Step} {cap balance : Int}

/-! ### Balances -/

/-- A balance stays positive exactly if it covers the gains from the start on, and the capacity
covers the gains over every stretch. -/
theorem solvent_iff (within : balance ≤ cap) (gains : List Int) :
    Solvent cap balance gains ↔
      (∀ front, front <+: gains → 0 < balance + Budget.total front) ∧
        ∀ stretch, stretch <:+: gains → 0 < cap + Budget.total stretch := by
  induction gains generalizing balance with
  | nil =>
    constructor
    · intro hpos
      change 0 < balance at hpos
      refine ⟨fun front hfront => ?_, fun stretch hstretch => ?_⟩
      · rw [List.prefix_nil.1 hfront, Budget.total_nil]
        omega
      · rw [List.infix_nil.1 hstretch, Budget.total_nil]
        omega
    · rintro ⟨hfront, -⟩
      have hpos := hfront [] (List.prefix_refl [])
      rw [Budget.total_nil, Int.add_zero] at hpos
      exact hpos
  | cons gain rest ih =>
    have hmin : min cap (balance + gain) ≤ cap := Int.min_le_left _ _
    rw [Solvent, ih hmin]
    constructor
    · rintro ⟨hpos, hfront, hstretch⟩
      -- a stretch either starts with the first gain or is one of the rest
      have hstart : ∀ front, front <+: gain :: rest → 0 < balance + Budget.total front := by
        intro front h
        rcases List.prefix_cons_iff.1 h with rfl | ⟨front, rfl, hrest⟩
        · simpa using hpos
        · have := hfront front hrest
          rw [Budget.total_cons]
          omega
      refine ⟨hstart, fun stretch h => ?_⟩
      rcases List.infix_cons_iff.1 h with hprefix | hrest
      · have := hstart stretch hprefix
        omega
      · exact hstretch stretch hrest
    · rintro ⟨hfront, hstretch⟩
      refine ⟨by simpa using hfront [] List.nil_prefix, fun front h => ?_, fun stretch h => ?_⟩
      · have hfirst := hfront (gain :: front) (List.cons_prefix_cons.2 ⟨rfl, h⟩)
        have hrest := hstretch front (h.isInfix.trans (List.suffix_cons gain rest).isInfix)
        rw [Budget.total_cons] at hfirst
        omega
      · exact hstretch stretch (h.trans (List.suffix_cons gain rest).isInfix)

theorem solvent_of_nonneg {gains : List Int} (hcap : 0 < cap) (hbalance : 0 < balance)
    (nonneg : ∀ gain ∈ gains, 0 ≤ gain) : Solvent cap balance gains := by
  induction gains generalizing balance with
  | nil => exact hbalance
  | cons gain rest ih =>
    have hgain : 0 ≤ gain := nonneg gain List.mem_cons_self
    exact ⟨hbalance, ih (by omega) fun g hg => nonneg g (List.mem_cons_of_mem _ hg)⟩

/-! ### Turns -/

theorem ofRemaining_eq_success_iff {remaining : Int} :
    Verdict.ofRemaining remaining = .success ↔ 0 < remaining := by
  refine ⟨pos_of_ofRemaining_eq_success, fun hpos => ?_⟩
  exact if_neg (Int.not_le.2 hpos)

/-- A bucket that holds something when a turn begins holds, at the next check, that and the gain in
between, as far as the capacity goes. -/
theorem value_refilled_charged {b : Bucket} (hpos : 0 < b.value)
    (within : b.value ≤ Budget.ofSpan settings.capacity) (time : Span) (finish next : Instant) :
    (refilled settings (some (charged (some b) time finish)) next).value =
      min (Budget.ofSpan settings.capacity)
        (b.value + (refill settings (ticksSince settings finish next) - Budget.ofSpan time)) := by
  have hcapacity : Budget.ofSpan settings.capacity ≤ Budget.greatest := Int.min_le_right _ _
  have htime : Budget.ofSpan time ≤ Budget.greatest := Int.min_le_right _ _
  have htime' : 0 ≤ Budget.ofSpan time := Budget.ofSpan_nonneg _
  have hleast : Budget.least = -Budget.greatest - 1 := rfl
  have hcharged : (charged (some b) time finish).value = b.value - Budget.ofSpan time := by
    change Budget.clamp (b.value - Budget.ofSpan time) = _
    unfold Budget.clamp
    omega
  have hleast' : Budget.least ≤ (charged (some b) time finish).value := by omega
  have hwithin : (charged (some b) time finish).value ≤ Budget.ofSpan settings.capacity := by omega
  rw [value_refilled hleast' hwithin next, hcharged]
  -- ticks are counted from the charge
  change min _ (_ + refill settings (ticksSince settings finish next)) = _
  omega

/-- A run that begins with a turn begins with its check and its charge, and goes on from the bucket
that they leave. -/
theorem turn_cases {t : Turn} {more : List Event} (sound : store.health = .sound)
    (h : run settings store (t.calls subject ++ more) = .ok steps) :
    ∃ check charge rest, steps = check :: charge :: rest ∧ check.call = .check subject ∧
      check.outcome = .verdict
        (Verdict.ofRemaining (refilled settings (store.buckets.find? subject) t.start).value) ∧
      charge.call = .charge subject t.time ∧ charge.after.health = .sound ∧
      charge.after.buckets.find? subject = some (charged
        (some (refilled settings (store.buckets.find? subject) t.start)) t.time t.finish) ∧
      run settings charge.after more = .ok rest := by
  obtain ⟨outcome, after, _, hcheck, hmore, rfl⟩ := run_cons_eq_ok h
  obtain ⟨outcome', last, rest, hcharge, hrest, rfl⟩ := run_cons_eq_ok hmore
  obtain ⟨hsound, hfind⟩ := find?_of_perform sound hcheck
  obtain ⟨hsound', hfind'⟩ := find?_of_perform hsound hcharge
  refine ⟨_, _, rest, rfl, rfl, outcome_of_perform_check sound hcheck, rfl, hsound', ?_, hrest⟩
  dsimp only at hfind hfind' ⊢
  rw [hfind', hfind, Call.onBucket, Call.onBucket, if_pos rfl, if_pos rfl]

/-- In a run of turns, all checks let the subject through exactly if the balance that it has at the
first one stays positive under the gains from each check to the next. -/
theorem succeed_iff_solvent {t : Turn} {rest : List Turn} (sound : store.health = .sound)
    (bounded : Bounded settings (store.buckets.find? subject))
    (h : run settings store ((t :: rest).flatMap (Turn.calls subject)) = .ok steps) :
    (∀ s ∈ steps, s.call = .check subject → s.outcome = .verdict .success) ↔
      Solvent (Budget.ofSpan settings.capacity)
        (refilled settings (store.buckets.find? subject) t.start).value
        (gains settings (t :: rest)) := by
  -- on the turns that follow, with the store in which the first of them begins
  induction rest generalizing t store steps with
  | nil =>
    obtain ⟨check, charge, later, rfl, hcheck, houtcome, hcharge, -, -, hlater⟩ :=
      turn_cases sound h
    obtain rfl := Except.ok.inj hlater
    simp [hcheck, houtcome, hcharge, ofRemaining_eq_success_iff, gains, consecutive, Solvent]
  | cons n rest ih =>
    obtain ⟨check, charge, later, rfl, hcheck, houtcome, hcharge, hsound, hfind, hlater⟩ :=
      turn_cases sound h
    have hbounded : Bounded settings
        (some (refilled settings (store.buckets.find? subject) t.start)) := bounded_refilled bounded
    have hsplit : (∀ s ∈ check :: charge :: later, s.call = .check subject →
          s.outcome = .verdict .success) ↔
        0 < (refilled settings (store.buckets.find? subject) t.start).value ∧
          ∀ s ∈ later, s.call = .check subject → s.outcome = .verdict .success := by
      simp [hcheck, houtcome, hcharge, ofRemaining_eq_success_iff]
    have hgains : gains settings (t :: n :: rest) =
        (refill settings (ticksSince settings t.finish n.start) - Budget.ofSpan t.time) ::
          gains settings (n :: rest) := rfl
    have hnext := ih hsound (by rw [hfind]; exact bounded_charged hbounded t.time) hlater
    rw [hsplit, hgains, Solvent, hnext, hfind]
    refine and_congr_right fun hpos => ?_
    rw [value_refilled_charged hpos (hbounded _ rfl).2]

theorem gain_nonneg {time : Span} {ticks : Nat} (paid : time ≤ settings.perInterval * ticks) :
    0 ≤ refill settings ticks - Budget.ofSpan time := by
  have hpaid : (time : Int) ≤ (settings.perInterval * ticks : Nat) := Int.ofNat_le.2 paid
  unfold refill Budget.ofSpan
  omega

/-! ### Runs -/

theorem unswept_of_turns
    (asked : events.filter (fun e => e.call.concerns subject) =
      turns.flatMap (Turn.calls subject)) :
    ∀ e ∈ events, e.call.isSweep = false := by
  intro e he
  cases hcall : e.call with
  | sweep staleAfter =>
    -- a sweep would be among what is asked for the subject
    have hmem : e ∈ turns.flatMap (Turn.calls subject) := by
      rw [← asked, List.mem_filter, hcall]
      exact ⟨he, rfl⟩
    obtain ⟨t, -, hturn⟩ := List.mem_flatMap.1 hmem
    simp only [Turn.calls, List.mem_cons, List.not_mem_nil, or_false] at hturn
    obtain rfl | rfl := hturn
    · cases hcall
    · cases hcall
  | _ => rfl

theorem succeed_iff_of_views {steps' : List Step}
    (views : steps'.map (Step.view subject) =
      (steps.filter fun s => s.call.concerns subject).map (Step.view subject)) :
    (∀ s ∈ steps, s.call = .check subject → s.outcome = .verdict .success) ↔
      ∀ s ∈ steps', s.call = .check subject → s.outcome = .verdict .success := by
  have hviews : (∀ x ∈ steps'.map (Step.view subject),
        x.1.call = .check subject → x.2.1 = .verdict .success) ↔
      ∀ x ∈ (steps.filter fun s => s.call.concerns subject).map (Step.view subject),
        x.1.call = .check subject → x.2.1 = .verdict .success := by
    rw [views]
  simp only [List.forall_mem_map] at hviews
  refine Iff.trans ⟨fun h s hs => h s (List.mem_filter.1 hs).1, fun h s hs hcheck => ?_⟩ hviews.symm
  have hconcerns : s.call.concerns subject = true := by
    rw [hcheck]
    simp [Call.concerns, Call.subject?]
  exact h s (List.mem_filter.2 ⟨hs, hconcerns⟩) hcheck

/-- **When a subject is never limited.** A subject without a bucket takes its turns in a run, and
nothing else is asked for it. All checks let it through exactly if the capacity covers what it loses
over every stretch of turns, and what a newcomer is given covers what it loses from the first turn
on. A turn's loss is its time less what the whole intervals between its end and the next check are
worth. So the subject is never limited if these intervals pay for every turn. -/
theorem never_limited_iff (settings : LimiterSettings) (subject : String) (store : Store)
    (events : List Event) (turns : List Turn) (sound : store.health = .sound)
    (newcomer : store.buckets.find? subject = none) (busy : turns ≠ [])
    (asked : events.filter (fun e => e.call.concerns subject) = turns.flatMap (Turn.calls subject))
    (readable : ∀ e ∈ events, e.now ≤ Instant.last) :
    ∃ steps, run settings store events = .ok steps ∧
      ((∀ s ∈ steps, s.call = .check subject → s.outcome = .verdict .success) ↔
        (∀ front, front <+: gains settings turns →
          0 < min (Budget.ofSpan settings.capacity) (refill settings maxTicks) +
            Budget.total front) ∧
        ∀ stretch, stretch <:+: gains settings turns →
          0 < Budget.ofSpan settings.capacity + Budget.total stretch) ∧
      (0 < settings.capacity → 0 < settings.perInterval →
        (∀ pair ∈ consecutive turns,
          pair.1.time ≤ settings.perInterval * ticksSince settings pair.1.finish pair.2.start) →
        ∀ s ∈ steps, s.call = .check subject → s.outcome = .verdict .success) := by
  obtain ⟨steps, hrun⟩ := exists_run sound readable (unswept_of_turns asked)
  obtain ⟨steps', hrun', hviews⟩ := view_of_run_filter sound sound rfl hrun
  rw [asked] at hrun'
  obtain ⟨t, rest, rfl⟩ := List.exists_cons_of_ne_nil busy
  have hsolvent := succeed_iff_solvent sound (by rw [newcomer]; nofun) hrun'
  rw [newcomer, value_refilled_none] at hsolvent
  refine ⟨steps, hrun, ?_, fun hcapacity hper paid => ?_⟩
  · rw [succeed_iff_of_views hviews, hsolvent, solvent_iff (Int.min_le_left _ _)]
  · rw [succeed_iff_of_views hviews, hsolvent]
    have hcap : 0 < Budget.ofSpan settings.capacity := Budget.ofSpan_pos hcapacity
    have hrefill : 0 < refill settings maxTicks :=
      Budget.ofSpan_pos (Nat.mul_pos hper (by decide))
    refine solvent_of_nonneg hcap (by omega) fun gain hgain => ?_
    obtain ⟨pair, hpair, rfl⟩ := List.mem_map.1 hgain
    exact gain_nonneg (paid pair hpair)

def leisurely : List Turn :=
  [⟨0, 4 * Span.second⟩, ⟨14 * Span.second, 4 * Span.second⟩, ⟨28 * Span.second, 4 * Span.second⟩]

/-- Between turns of four seconds, fourteen seconds apart, two ticks of five seconds are due. That
pays for them, whoever else is checked. -/
theorem leisurely_never_limited :
    ∃ steps, run {} Store.empty
        (leisurely.flatMap fun t => t.calls "a" ++ [⟨t.finish, .check "b"⟩]) = .ok steps ∧
      ∀ s ∈ steps, s.call = .check "a" → s.outcome = .verdict .success := by
  obtain ⟨steps, hrun, -, hpaid⟩ := never_limited_iff {} "a" Store.empty
    (leisurely.flatMap fun t => t.calls "a" ++ [⟨t.finish, .check "b"⟩])
    leisurely rfl rfl (by decide)
    (by decide +kernel) (by decide +kernel)
  exact ⟨steps, hrun, hpaid (by decide) (by decide) (by decide +kernel)⟩

def brisk : List Turn :=
  [⟨0, 10 * Span.second⟩, ⟨14 * Span.second, 10 * Span.second⟩,
    ⟨28 * Span.second, 10 * Span.second⟩, ⟨42 * Span.second, 10 * Span.second⟩]

/-- Turns of ten seconds, fourteen seconds apart, are within a rate of a second for each second. But
each of them is charged four seconds before the next, and with that the count of ticks starts anew:
no tick is ever due, and the fourth check is limited. -/
theorem brisk_limited :
    WithinRate {} brisk ∧
      ∃ steps, run {} Store.empty (brisk.flatMap (Turn.calls "a")) = .ok steps ∧
        ∃ s ∈ steps, s.call = .check "a" ∧ s.outcome = .verdict .rateLimited := by
  refine ⟨⟨by decide, by decide +kernel, by decide +kernel, by decide +kernel⟩, _, rfl, ?_⟩
  decide +kernel

end Turnstile.Limiter
