import Turnstile.Proofs.Limiter.Pace
import Turnstile.Proofs.Limiter.Ticks

/-!
# What a rejected check costs

A rejected check takes nothing out of a bucket. But if a tick is due at it, it writes the bucket,
and with that the count of ticks starts anew: what has passed of the next tick is lost. So two runs
are compared here, one of which makes a check that the other leaves out. From then on the first is
behind by the refill for one tick at most, and it is not behind at all if the check found no tick,
or came just when a tick had passed.

## Main definitions

- `Limiter.Follows` — what may be asked for from an instant on
- `Limiter.CutsNoTick` — a check that no part of a tick is lost by
- `Limiter.Trails` — the invariant that ties the buckets of the two runs to each other

## Main statements

- `Limiter.Trails.onBucket` — what one call keeps
- `Limiter.exists_delayed` — a check that a part of a tick is lost by delays some later one
- `Limiter.rejected_cost` — the statement about runs
-/

namespace Turnstile.Limiter

/-- What may be asked for from an instant on: anything but sweeps, on a clock that can be read and
does not go back. -/
structure Follows (now : Instant) (events : List Event) : Prop where
  clock : (now :: events.map (·.now)).Pairwise (· ≤ ·)
  readable : ∀ e ∈ events, e.now ≤ Instant.last
  unswept : ∀ e ∈ events, e.call.isSweep = false

/-- No part of a tick is lost by a check: none is due, or the last that is due has just passed, or
there are as many as a bucket is ever refilled for at once. -/
def CutsNoTick (settings : LimiterSettings) (b : Bucket) (now : Instant) : Prop :=
  ticksSince settings b.lastModified now = 0 ∨ ticksSince settings b.lastModified now = maxTicks ∨
    tickLength settings ∣ Instant.elapsed b.lastModified now

/-- Some time before the end of the calendar a single check finds enough ticks to bring a bucket
above zero. -/
def Repayable (settings : LimiterSettings) (b : Bucket) : Prop :=
  ∃ ticks ≤ maxTicks, 0 < b.value + refill settings ticks ∧
    b.lastModified + (ticks * tickLength settings : Nat) ≤ Instant.last

/-- The first bucket has no less than the second but for some loss. Either it counts ticks from no
later, or it counts from later and has the ticks already that the second can get more than it. -/
inductive Trails (settings : LimiterSettings) (loss : Int) (now : Instant) :
    Option Bucket → Option Bucket → Prop
  | later {b b' : Bucket} (value : b'.value ≤ b.value + loss)
      (order : b.lastModified ≤ b'.lastModified) :
      Trails settings loss now (some b) (some b')
  | earlier {b b' : Bucket} (lead : Nat)
      (value : min (Budget.ofSpan settings.capacity) (b'.value + refill settings lead) ≤
        b.value + loss)
      (order : b'.lastModified ≤ b.lastModified) (clock : b.lastModified ≤ now)
      (ticks : ∀ next, now ≤ next →
        ticksSince settings b'.lastModified next ≤ ticksSince settings b.lastModified next + lead) :
      Trails settings loss now (some b) (some b')

variable {settings : LimiterSettings} {subject : String} {start now next : Instant} {loss : Int}
  {bucket bucket' : Option Bucket} {b b' : Bucket} {store store' after : Store}
  {events : List Event}
  {steps steps' : List Step} {call : Call} {outcome : Outcome}

/-! ### Ticks counted in two parts -/

theorem toNat_sub_le_add_toNat {a b c : Int} : (c - a).toNat ≤ (b - a).toNat + (c - b).toNat := by
  omega

theorem div_add_le {m n d : Nat} (hd : 0 < d) : (m + n) / d ≤ m / d + n / d + 1 := by
  have hm := Nat.lt_div_mul_add (a := m) hd
  have hn := Nat.lt_div_mul_add (a := n) hd
  have hlt : (m + n) / d < m / d + n / d + 2 := by
    rw [Nat.div_lt_iff_lt_mul hd, Nat.add_mul, Nat.add_mul]
    omega
  omega

theorem min_add_le {m n k limit : Nat} :
    min (m + n + k) limit ≤ min n limit + (min m limit + k) := by
  omega

/-- Counted in two parts, there is at most one tick less. -/
theorem ticksSince_le_add (start now next : Instant) :
    ticksSince settings start next ≤
      ticksSince settings now next + (ticksSince settings start now + 1) := by
  have helapsed : Instant.elapsed start next ≤
      Instant.elapsed start now + Instant.elapsed now next :=
    toNat_sub_le_add_toNat
  have hticks : Instant.elapsed start next / tickLength settings ≤
      Instant.elapsed start now / tickLength settings +
        Instant.elapsed now next / tickLength settings + 1 :=
    Nat.le_trans (Nat.div_le_div_right helapsed) (div_add_le (tickLength_pos settings))
  exact Nat.le_trans
    (Nat.le_min.2 ⟨Nat.le_trans (Nat.min_le_left _ _) hticks, Nat.min_le_right _ _⟩)
    min_add_le

/-- Counted in two parts, the first of which is filled by ticks, there are as many. -/
theorem ticksSince_le_add_of_dvd (whole : tickLength settings ∣ Instant.elapsed start now)
    (next : Instant) :
    ticksSince settings start next ≤ ticksSince settings now next +
      ticksSince settings start now := by
  have helapsed : Instant.elapsed start next ≤
      Instant.elapsed start now + Instant.elapsed now next :=
    toNat_sub_le_add_toNat
  have hticks : Instant.elapsed start next / tickLength settings ≤
      Instant.elapsed start now / tickLength settings +
        Instant.elapsed now next / tickLength settings + 0 := by
    obtain ⟨count, hcount⟩ := whole
    rw [hcount] at helapsed ⊢
    rw [Nat.add_zero, Nat.mul_div_cancel_left _ (tickLength_pos settings),
      ← Nat.mul_add_div (tickLength_pos settings)]
    exact Nat.div_le_div_right helapsed
  exact Nat.le_trans
    (Nat.le_min.2 ⟨Nat.le_trans (Nat.min_le_left _ _) hticks, Nat.min_le_right _ _⟩)
    min_add_le

theorem refill_add_le (m n : Nat) :
    refill settings (m + n) ≤ refill settings m + refill settings n := by
  have hspan := Nat.mul_add settings.perInterval m n
  have hgreatest : 0 ≤ Budget.greatest := by decide
  unfold refill Budget.ofSpan
  omega

/-- As long as one tick more is worth more, nothing is lost by counting in two parts. -/
theorem refill_add_of_lt {m n : Nat} (h : refill settings (m + n) < refill settings (m + n + 1)) :
    refill settings m + refill settings n = refill settings (m + n) := by
  have hspan := Nat.mul_add settings.perInterval m n
  unfold refill Budget.ofSpan at h ⊢
  omega

/-! ### What single calls keep -/

theorem Trails.mono (h : Trails settings loss now bucket bucket') (hle : now ≤ next) :
    Trails settings loss next bucket bucket' := by
  cases h with
  | later value order => exact .later value order
  | earlier lead value order clock ticks =>
    exact .earlier lead value order (Int.le_trans clock hle) fun t ht =>
      ticks t (Int.le_trans hle ht)

theorem Trails.value_le (h : Trails settings loss now bucket bucket')
    (hbounded' : Bounded settings bucket') :
    (bucket'.map (·.value)).getD 0 ≤ (bucket.map (·.value)).getD 0 + loss := by
  cases h with
  | later value order => exact value
  | @earlier b b' lead value order clock ticks =>
    have hcapacity := (hbounded' _ rfl).2
    have hrefill := refill_nonneg settings lead
    simp only [Option.map_some, Option.getD_some]
    omega

theorem Trails.check_later (hloss : 0 ≤ loss) (hbounded : Bounded settings (some b))
    (hbounded' : Bounded settings (some b')) (value : b'.value ≤ b.value + loss)
    (order : b.lastModified ≤ b'.lastModified) :
    Trails settings loss now (some (refilled settings (some b) now))
      (some (refilled settings (some b') now)) := by
  have hcapacity := (hbounded' b' rfl).2
  have hfewer : ticksSince settings b'.lastModified now ≤ ticksSince settings b.lastModified now :=
    ticksSince_le_ticksSince order
  by_cases hticks : ticksSince settings b.lastModified now = 0
  · have hticks' : ticksSince settings b'.lastModified now = 0 := by omega
    rw [refilled_of_no_tick hticks, refilled_of_no_tick hticks']
    exact .later value order
  rw [refilled_of_ticks hticks (hbounded b rfl).1]
  by_cases hticks' : ticksSince settings b'.lastModified now = 0
  · have hone : refill settings 1 ≤ refill settings (ticksSince settings b.lastModified now) :=
      refill_mono (by omega)
    have hrefill := refill_nonneg settings 1
    rw [refilled_of_no_tick hticks']
    rcases Int.le_total b'.lastModified now with hclock | hclock
    · -- the second counts from earlier now, and can get one tick more, which the first has just got
      refine .earlier 1 ?_ hclock (Int.le_refl _) fun t ht => ?_
      · show min _ _ ≤ min _ _ + loss
        omega
      · exact ticksSince_le_succ (lt_add_tickLength hticks')
    · refine .later ?_ hclock
      show b'.value ≤ min _ _ + loss
      omega
  · have hless : refill settings (ticksSince settings b'.lastModified now) ≤
        refill settings (ticksSince settings b.lastModified now) := refill_mono hfewer
    rw [refilled_of_ticks hticks' (hbounded' b' rfl).1]
    refine .later ?_ (Int.le_refl _)
    show min _ _ ≤ min _ _ + loss
    omega

theorem Trails.check_earlier {lead : Nat} (hloss : 0 ≤ loss) (hbounded : Bounded settings (some b))
    (hbounded' : Bounded settings (some b'))
    (value : min (Budget.ofSpan settings.capacity) (b'.value + refill settings lead) ≤
      b.value + loss)
    (order : b'.lastModified ≤ b.lastModified) (clock : b.lastModified ≤ now)
    (ticks : ∀ next, now ≤ next →
      ticksSince settings b'.lastModified next ≤ ticksSince settings b.lastModified next + lead) :
    Trails settings loss now (some (refilled settings (some b) now))
      (some (refilled settings (some b') now)) := by
  have hmore : ticksSince settings b.lastModified now ≤ ticksSince settings b'.lastModified now :=
    ticksSince_le_ticksSince order
  have hlead := ticks now (Int.le_refl _)
  by_cases hticks' : ticksSince settings b'.lastModified now = 0
  · have hticks : ticksSince settings b.lastModified now = 0 := by omega
    rw [refilled_of_no_tick hticks, refilled_of_no_tick hticks']
    exact .earlier lead value order clock ticks
  rw [refilled_of_ticks hticks' (hbounded' b' rfl).1]
  by_cases hticks : ticksSince settings b.lastModified now = 0
  · -- the second catches up on the ticks that the first had before
    have hcaught : refill settings (ticksSince settings b'.lastModified now) ≤
        refill settings lead :=
      refill_mono (by omega)
    rw [refilled_of_no_tick hticks]
    refine .later ?_ clock
    show min _ _ ≤ b.value + loss
    omega
  · have hsplit : refill settings (ticksSince settings b'.lastModified now) ≤
        refill settings (ticksSince settings b.lastModified now) + refill settings lead :=
      Int.le_trans (refill_mono hlead) (refill_add_le _ _)
    have hrefill := refill_nonneg settings (ticksSince settings b.lastModified now)
    rw [refilled_of_ticks hticks (hbounded b rfl).1]
    refine .later ?_ (Int.le_refl _)
    show min _ _ ≤ min _ _ + loss
    omega

theorem Trails.refilled (h : Trails settings loss now bucket bucket') (hloss : 0 ≤ loss)
    (hbounded : Bounded settings bucket) (hbounded' : Bounded settings bucket') :
    Trails settings loss now (some (refilled settings bucket now))
      (some (Limiter.refilled settings bucket' now)) := by
  cases h with
  | later value order => exact .check_later hloss hbounded hbounded' value order
  | earlier lead value order clock ticks =>
    exact .check_earlier hloss hbounded hbounded' value order clock ticks

theorem clamp_le_clamp_add {m n : Int} (hloss : 0 ≤ loss) (h : m ≤ n + loss) :
    Budget.clamp m ≤ Budget.clamp n + loss := by
  unfold Budget.clamp
  omega

theorem Trails.charged (h : Trails settings loss now bucket bucket') (hloss : 0 ≤ loss)
    (hbounded' : Bounded settings bucket') (consumed : Span) :
    Trails settings loss now (some (charged bucket consumed now))
      (some (Limiter.charged bucket' consumed now)) := by
  have hvalue := h.value_le hbounded'
  refine .later ?_ (Int.le_refl _)
  apply clamp_le_clamp_add hloss
  omega

/-- Whatever is asked for but a sweep, the first bucket loses no more. -/
theorem Trails.onBucket (h : Trails settings loss now bucket bucket') (hloss : 0 ≤ loss)
    (hbounded : Bounded settings bucket) (hbounded' : Bounded settings bucket')
    (unswept : call.isSweep = false) :
    Trails settings loss now (call.onBucket settings subject now bucket)
      (call.onBucket settings subject now bucket') := by
  cases call with
  | check other =>
    by_cases hother : subject = other
    · simpa only [Call.onBucket, if_pos hother] using h.refilled hloss hbounded hbounded'
    · simpa only [Call.onBucket, if_neg hother] using h
  | checkToken signer token =>
    simp only [Call.onBucket]
    split
    · by_cases hother : subject = token
      · simpa only [if_pos hother] using h.refilled hloss hbounded hbounded'
      · simpa only [if_neg hother] using h
    · exact h
  | charge other consumed =>
    by_cases hother : subject = other
    · simpa only [Call.onBucket, if_pos hother] using h.charged hloss hbounded' consumed
    · simpa only [Call.onBucket, if_neg hother] using h
  | sweep staleAfter => cases unswept

theorem le_of_ticksSince_ne_zero (hticks : ticksSince settings start now ≠ 0) : start ≤ now := by
  apply Int.le_of_lt
  apply Int.not_le.1
  intro hclock
  apply hticks
  have helapsed : Instant.elapsed start now = 0 := Int.toNat_eq_zero.2 (by omega)
  simp [ticksSince, helapsed]

/-- What a check has written trails what was there before it, by what the ticks that can be got more
from there on are worth more. -/
theorem trails_refilled (lead : Nat) (hloss : 0 ≤ loss) (hbounded : Bounded settings (some b))
    (ticks : ∀ next, ticksSince settings b.lastModified next ≤ ticksSince settings now next + lead)
    (value : refill settings lead ≤ refill settings
      (ticksSince settings b.lastModified now) + loss) :
    Trails settings loss now (some (refilled settings (some b) now)) (some b) := by
  by_cases hticks : ticksSince settings b.lastModified now = 0
  · rw [refilled_of_no_tick hticks]
    exact .later (by omega) (Int.le_refl _)
  · rw [refilled_of_ticks hticks (hbounded b rfl).1]
    refine .earlier lead ?_ (le_of_ticksSince_ne_zero hticks) (Int.le_refl _) fun t _ => ticks t
    show min _ _ ≤ min _ _ + loss
    omega

theorem trails_refilled_of_cutsNoTick (hbounded : Bounded settings (some b))
    (whole : CutsNoTick settings b now) :
    Trails settings 0 now (some (refilled settings (some b) now)) (some b) := by
  rcases whole with hnone | hmost | hdvd
  · rw [refilled_of_no_tick hnone]
    exact .later (by omega) (Int.le_refl _)
  · refine trails_refilled maxTicks (Int.le_refl 0) hbounded (fun next => ?_) ?_
    · exact Nat.le_trans ticksSince_le_maxTicks (Nat.le_add_left _ _)
    · rw [hmost]
      omega
  · exact trails_refilled _ (Int.le_refl 0) hbounded (ticksSince_le_add_of_dvd hdvd) (by omega)

/-! ### A later check that is delayed -/

/-- Counted from a check that has cut a tick short, there is one tick less at the end of a tick. -/
theorem sub_div_of_cut {elapsed count length : Nat} (hlength : 0 < length)
    (hcut : ¬length ∣ elapsed) (hcount : elapsed / length < count) :
    (count * length - elapsed) / length = count - elapsed / length - 1 ∧
    elapsed < count * length := by
  have hrest : elapsed % length ≠ 0 := fun h => hcut (Nat.dvd_of_mod_eq_zero h)
  have hlt := Nat.mod_lt elapsed hlength
  have hdiv := Nat.div_add_mod elapsed length
  obtain ⟨more, rfl⟩ : ∃ more, count = more + (elapsed / length + 1) :=
    ⟨count - (elapsed / length + 1), by omega⟩
  have hsplit : (more + (elapsed / length + 1)) * length =
      length * more + (length * (elapsed / length) + length) := by
    rw [Nat.mul_comm, Nat.mul_add, Nat.mul_add, Nat.mul_one]
  have hsub : (more + (elapsed / length + 1)) * length - elapsed =
      length * more + (length - elapsed % length) := by omega
  constructor
  · rw [hsub, Nat.mul_add_div hlength, Nat.div_eq_of_lt (by omega)]
    omega
  · omega

theorem toNat_add_sub {a : Int} {n : Nat} : (a + n - a).toNat = n := by
  omega

theorem toNat_add_sub_of_le {a b : Int} {n : Nat} (h : a ≤ b) :
    (a + n - b).toNat = n - (b - a).toNat := by
  omega

theorem ticksSince_add_mul {ticks : Nat} (hmost : ticks ≤ maxTicks) (start : Instant) :
    ticksSince settings start (start + (ticks * tickLength settings : Nat)) = ticks := by
  have helapsed : Instant.elapsed start (start + (ticks * tickLength settings : Nat)) =
      ticks * tickLength settings := toNat_add_sub
  unfold ticksSince
  rw [helapsed]
  change min (ticks * tickLength settings / tickLength settings) maxTicks = ticks
  rw [Nat.mul_div_cancel _ (tickLength_pos settings)]
  exact Nat.min_eq_left hmost

/-- A check within a tick takes a tick from those counted at the end of a tick. -/
theorem ticksSince_of_cut {ticks : Nat} (hmost : ticks ≤ maxTicks)
    (cut : ¬CutsNoTick settings b now) (hmore : ticksSince settings b.lastModified now < ticks) :
    now ≤ b.lastModified + (ticks * tickLength settings : Nat) ∧
      ticksSince settings now (b.lastModified + (ticks * tickLength settings : Nat)) =
        ticks - ticksSince settings b.lastModified now - 1 := by
  obtain ⟨hticks, hnotall, hcut⟩ : ticksSince settings b.lastModified now ≠ 0 ∧
      ticksSince settings b.lastModified now ≠ maxTicks ∧
      ¬tickLength settings ∣ Instant.elapsed b.lastModified now := by
    simpa [CutsNoTick, not_or] using cut
  have hclock := le_of_ticksSince_ne_zero hticks
  have hcount : ticksSince settings b.lastModified now =
      Instant.elapsed b.lastModified now / tickLength settings := by
    apply Nat.min_eq_left
    apply Nat.le_of_not_le
    intro hle
    exact hnotall (Nat.min_eq_right hle)
  rw [hcount] at hmore ⊢
  obtain ⟨hdiv, hlt⟩ := sub_div_of_cut (tickLength_pos settings) hcut hmore
  have helapsed : Instant.elapsed now (b.lastModified + (ticks * tickLength settings : Nat)) =
      ticks * tickLength settings - Instant.elapsed b.lastModified now := toNat_add_sub_of_le hclock
  constructor
  · exact Int.le_of_lt (lt_add_of_toNat_sub_lt hlt)
  · unfold ticksSince
    rw [helapsed]
    change min ((ticks * tickLength settings - _) / tickLength settings) maxTicks = _
    rw [hdiv]
    apply Nat.min_eq_left
    omega

theorem value_refilled_le (hbounded : Bounded settings (some b)) (now : Instant) :
    (refilled settings (some b) now).value ≤
      b.value + refill settings (ticksSince settings b.lastModified now) := by
  have hrefill := refill_nonneg settings (ticksSince settings b.lastModified now)
  by_cases hticks : ticksSince settings b.lastModified now = 0
  · rw [refilled_of_no_tick hticks]
    omega
  · rw [refilled_of_ticks hticks (hbounded b rfl).1]
    exact Int.min_le_right _ _

/-- Of the numbers of ticks that do not bring a bucket above zero, some is only one tick short. -/
theorem exists_one_short {value : Int} {enough : Nat} (hvalue : value ≤ 0)
    (hpos : 0 < value + refill settings enough) :
    ∃ ticks < enough, value + refill settings ticks ≤ 0 ∧
      0 < value + refill settings (ticks + 1) := by
  induction enough with
  | zero =>
    have hzero : refill settings 0 = 0 := rfl
    omega
  | succ n ih =>
    by_cases hless : 0 < value + refill settings n
    · obtain ⟨ticks, hticks, hshort⟩ := ih hless
      exact ⟨ticks, Nat.lt_succ_of_lt hticks, hshort⟩
    · exact ⟨n, Nat.lt_succ_self n, Int.not_lt.1 hless, hpos⟩

/-- A check that is rejected and cuts a tick short delays a later one: at the end of the tick that
brings the bucket above zero, it is still one tick behind. -/
theorem exists_delayed (positive : 0 < settings.capacity) (hbounded : Bounded settings (some b))
    (rejected : (refilled settings (some b) now).value ≤ 0) (cut : ¬CutsNoTick settings b now)
    (repayable : Repayable settings b) :
    ∃ next, now ≤ next ∧ next ≤ Instant.last ∧ 0 < (refilled settings (some b) next).value ∧
      (refilled settings (some (refilled settings (some b) now)) next).value ≤ 0 := by
  obtain ⟨enough, hmost, hpos, hlast⟩ := repayable
  have hcapacity : 0 < Budget.ofSpan settings.capacity := Budget.ofSpan_pos positive
  have hticks : ticksSince settings b.lastModified now ≠ 0 := fun h => cut (Or.inl h)
  rw [refilled_of_ticks hticks (hbounded b rfl).1] at rejected
  dsimp only at rejected
  have hrefill := refill_nonneg settings (ticksSince settings b.lastModified now)
  obtain ⟨short, hshort, hbefore, hafter⟩ := exists_one_short (by omega) hpos
  have hend : b.lastModified + ((short + 1) * tickLength settings : Nat) ≤ Instant.last :=
    Int.le_trans (Int.add_le_add_left (Int.ofNat_le.2 (Nat.mul_le_mul_right _ hshort)) _) hlast
  have hmore : ticksSince settings b.lastModified now < short + 1 := by
    apply Nat.lt_of_not_le
    intro h
    have hless : refill settings (short + 1) ≤ _ := refill_mono h
    omega
  have hmost' : short + 1 ≤ maxTicks := Nat.le_trans hshort hmost
  obtain ⟨hclock, hcut⟩ := ticksSince_of_cut hmost' cut hmore
  have hwhole : ticksSince settings b.lastModified
      (b.lastModified + ((short + 1) * tickLength settings : Nat)) = short + 1 :=
    ticksSince_add_mul hmost' _
  refine ⟨b.lastModified + ((short + 1) * tickLength settings : Nat), hclock, hend, ?_, ?_⟩
  · have hdue : ticksSince settings b.lastModified
        (b.lastModified + ((short + 1) * tickLength settings : Nat)) ≠ 0 := by omega
    rw [refilled_of_ticks hdue (hbounded b rfl).1, hwhole]
    show 0 < min _ _
    omega
  · -- with the check, the ticks before and after it are one too few
    have hsplit : refill settings (ticksSince settings b.lastModified now) +
        refill settings (short + 1 - ticksSince settings b.lastModified now - 1) =
          refill settings short := by
      obtain ⟨rest, hrest⟩ : ∃ rest, short = ticksSince settings b.lastModified now + rest :=
        ⟨short - ticksSince settings b.lastModified now, by omega⟩
      have hcount : short + 1 - ticksSince settings b.lastModified now - 1 = rest := by omega
      rw [hcount, hrest]
      apply refill_add_of_lt
      rw [← hrest]
      omega
    have hchecked : Bounded settings (some (refilled settings (some b) now)) :=
      bounded_refilled hbounded
    have hvalue :=
      value_refilled_le hchecked (b.lastModified + ((short + 1) * tickLength settings : Nat))
    rw [refilled_of_ticks hticks (hbounded b rfl).1] at hvalue ⊢
    dsimp only at hvalue
    rw [hcut] at hvalue
    omega

/-! ### Runs -/

/-- How a step stands to its counterpart in the run without the check: the same is asked for, and
the subject has no less after it but for some loss. -/
structure Step.Lags (subject : String) (loss : Int) (s s' : Step) : Prop where
  toEvent : s'.toEvent = s.toEvent
  value_le : s'.after.buckets.value subject ≤ s.after.buckets.value subject + loss

theorem Follows.tail {e : Event} (h : Follows now (e :: events)) :
    now ≤ e.now ∧ Follows e.now events where
  left := (List.pairwise_cons.1 h.clock).1 _ List.mem_cons_self
  right :=
    { clock := (List.pairwise_cons.1 h.clock).2
      readable := fun e' he' => h.readable e' (List.mem_cons_of_mem _ he')
      unswept := fun e' he' => h.unswept e' (List.mem_cons_of_mem _ he') }

/-- While the first bucket trails the second, every step lags its counterpart by the loss at
most. -/
theorem lags_of_run (hloss : 0 ≤ loss) (sound : store.health = .sound)
    (sound' : store'.health = .sound)
    (trails : Trails settings loss now (store.buckets.find? subject) (store'.buckets.find? subject))
    (bounded : Bounded settings (store.buckets.find? subject))
    (bounded' : Bounded settings (store'.buckets.find? subject)) (follows : Follows now events)
    (h : run settings store events = .ok steps) (h' : run settings store' events = .ok steps') :
    ∀ pair ∈ steps.zip steps', pair.1.Lags subject loss pair.2 := by
  -- on the calls, with the stores that the two runs have come to
  induction events generalizing store store' now steps steps' with
  | nil =>
    obtain rfl := Except.ok.inj h
    intro pair hpair
    cases hpair
  | cons e rest ih =>
    obtain ⟨hnow, hrest⟩ := follows.tail
    obtain ⟨outcome, after, steps, hperform, hrun, rfl⟩ := run_cons_eq_ok h
    obtain ⟨outcome', after', steps', hperform', hrun', rfl⟩ := run_cons_eq_ok h'
    obtain ⟨hsound, hfind⟩ := find?_of_perform sound hperform
    obtain ⟨hsound', hfind'⟩ := find?_of_perform sound' hperform'
    have hstep : Trails settings loss e.now (after.buckets.find? subject)
        (after'.buckets.find? subject) := by
      rw [hfind, hfind']
      exact (trails.mono hnow).onBucket hloss bounded bounded'
        (follows.unswept e List.mem_cons_self)
    have hbounded : Bounded settings (after.buckets.find? subject) := by
      rw [hfind]
      exact bounded_onBucket bounded e.call
    have hbounded' : Bounded settings (after'.buckets.find? subject) := by
      rw [hfind']
      exact bounded_onBucket bounded' e.call
    intro pair hpair
    rcases List.mem_cons.1 hpair with rfl | hpair
    · exact ⟨rfl, hstep.value_le hbounded'⟩
    · exact ih hsound hsound' hstep hbounded hbounded' hrest hrun hrun' pair hpair

theorem success_iff_of_perform (sound : store.health = .sound)
    (h : (Call.check subject).perform settings store now = .ok (outcome, after)) :
    outcome = .verdict .success ↔ 0 < after.buckets.value subject := by
  have hfind := (find?_of_perform sound h).2 subject
  simp only [Call.onBucket, if_pos] at hfind
  rw [outcome_of_perform_check sound h, Outcome.verdict.injEq, ofRemaining_eq_success_iff,
    Buckets.value, hfind]
  rfl

/-- In a run, the checks that succeed are those after which there is something left. -/
theorem success_iff_of_mem_run (sound : store.health = .sound)
    (h : run settings store events = .ok steps) {s : Step} (hs : s ∈ steps)
    (checked : s.call = .check subject) :
    s.outcome = .verdict .success ↔ 0 < s.after.buckets.value subject := by
  obtain ⟨hsound, hperform⟩ := perform_of_mem_run (fun store => store.health = .sound)
    (fun sound hperform => (find?_of_perform sound hperform).1) sound h hs
  rw [checked] at hperform
  exact success_iff_of_perform hsound hperform

/-- A run that goes on after a check lags the one that goes on without it. -/
theorem lags_of_check (sound : store.health = .sound)
    (bounded : Bounded settings (store.buckets.find? subject))
    (hb : store.buckets.find? subject = some b) (follows : Follows now events)
    (hperform : (Call.check subject).perform settings store now = .ok (outcome, after))
    (h : run settings after events = .ok steps) (h' : run settings store events = .ok steps') :
    (∀ pair ∈ steps.zip steps', pair.1.Lags subject (refill settings 1) pair.2) ∧
      (CutsNoTick settings b now → ∀ pair ∈ steps.zip steps', pair.1.Lags subject 0 pair.2) := by
  obtain ⟨hsound, hfind⟩ := find?_of_perform sound hperform
  have hchecked : after.buckets.find? subject = some (refilled settings (some b) now) := by
    simpa [Call.onBucket, hb] using hfind subject
  have hbounded : Bounded settings (some b) := hb ▸ bounded
  have hbounded' : Bounded settings (after.buckets.find? subject) := by
    rw [hchecked]
    exact bounded_refilled hbounded
  constructor
  · have hrefill := refill_nonneg settings 1
    have trails : Trails settings (refill settings 1) now (after.buckets.find? subject)
        (store.buckets.find? subject) := by
      rw [hchecked, hb]
      exact trails_refilled _ hrefill hbounded (ticksSince_le_add _ _) (refill_succ_le _)
    exact lags_of_run hrefill hsound sound trails hbounded' bounded follows h h'
  · intro whole
    have trails : Trails settings 0 now (after.buckets.find? subject)
        (store.buckets.find? subject) := by
      rw [hchecked, hb]
      exact trails_refilled_of_cutsNoTick hbounded whole
    exact lags_of_run (Int.le_refl 0) hsound sound trails hbounded' bounded follows h h'

/-- With positive settings, a subject without a bucket is not limited. -/
theorem exists_bucket_of_limited (capacity : 0 < settings.capacity)
    (perInterval : 0 < settings.perInterval) (limited : (refilled settings bucket now).value ≤ 0) :
    ∃ b, bucket = some b := by
  cases bucket with
  | none =>
    have hcapacity : 0 < Budget.ofSpan settings.capacity := Budget.ofSpan_pos capacity
    have hrefill : 0 < refill settings maxTicks :=
      Budget.ofSpan_pos (Nat.mul_pos perInterval (by decide))
    rw [refilled_none] at limited
    dsimp only at limited
    omega
  | some b => exact ⟨b, rfl⟩

theorem exists_run_check (settings : LimiterSettings) (subject : String)
    (sound : store.health = .sound) (hnow : now ≤ Instant.last) :
    ∃ s, run settings store [⟨now, .check subject⟩] = .ok [s] ∧
      s.outcome = .verdict
        (Verdict.ofRemaining (refilled settings (store.buckets.find? subject) now).value) := by
  obtain ⟨outcome, after, hperform⟩ : ∃ outcome after,
      (Call.check subject).perform settings store now = .ok (outcome, after) :=
    exists_perform settings sound hnow rfl
  exact ⟨_, run_cons_of_perform hperform rfl, outcome_of_perform_check sound hperform⟩

theorem ofRemaining_eq_rateLimited_iff {remaining : Int} :
    Verdict.ofRemaining remaining = .rateLimited ↔ remaining ≤ 0 := by
  unfold Verdict.ofRemaining
  by_cases h : remaining ≤ 0
  · simp [h]
  · simp [h]

/-- A check that is limited and cuts a tick short can delay a later one. -/
theorem delayed_of_check (capacity : 0 < settings.capacity) (sound : store.health = .sound)
    (bounded : Bounded settings (store.buckets.find? subject))
    (hb : store.buckets.find? subject = some b)
    (hperform : (Call.check subject).perform settings store now = .ok (outcome, after))
    (limited : outcome = .verdict .rateLimited) (cut : ¬CutsNoTick settings b now)
    (repayable : Repayable settings b) :
    ∃ next, now ≤ next ∧ next ≤ Instant.last ∧ ∃ late soon,
      run settings after [⟨next, .check subject⟩] = .ok [late] ∧
      run settings store [⟨next, .check subject⟩] = .ok [soon] ∧
      late.outcome = .verdict .rateLimited ∧ soon.outcome = .verdict .success := by
  obtain ⟨hsound, hfind⟩ := find?_of_perform sound hperform
  have hchecked : after.buckets.find? subject = some (refilled settings (some b) now) := by
    simpa [Call.onBucket, hb] using hfind subject
  have hrejected : (refilled settings (some b) now).value ≤ 0 := by
    rw [outcome_of_perform_check sound hperform, hb] at limited
    exact ofRemaining_eq_rateLimited_iff.1 (Outcome.verdict.inj limited)
  obtain ⟨next, hclock, hnext, hsoon, hlate⟩ :=
    exists_delayed capacity (hb ▸ bounded) hrejected cut repayable
  obtain ⟨late, hrunLate, houtcomeLate⟩ := exists_run_check settings subject hsound hnext
  obtain ⟨soon, hrunSoon, houtcomeSoon⟩ := exists_run_check settings subject sound hnext
  refine ⟨next, hclock, hnext, late, soon, hrunLate, hrunSoon, ?_, ?_⟩
  · rw [houtcomeLate, hchecked, ofRemaining_eq_rateLimited_iff.2 hlate]
  · rw [houtcomeSoon, hb, ofRemaining_eq_success_iff.2 hsoon]

/-- **What a rejected check costs.** Take a run from the empty store without sweeps, on a clock that
can be read, and a check after it that is limited. The subject has a bucket then. Whatever is asked
for from there on, the subject has at most the refill of one tick less than in the run without this
check. If the check cuts no tick short, it costs nothing: every later check that succeeds without it
succeeds with it. But one that cuts a tick short delays some later check, if a single check could
bring the bucket above zero at all. -/
theorem rejected_cost (settings : LimiterSettings) (subject : String) (front : List Event)
    (now : Instant) (capacity : 0 < settings.capacity) (perInterval : 0 < settings.perInterval)
    (readable : ∀ e ∈ front, e.now ≤ Instant.last) (unswept : ∀ e ∈ front, e.call.isSweep = false)
    (hnow : now ≤ Instant.last) :
    ∃ steps check,
      run settings Store.empty (front ++ [⟨now, .check subject⟩]) = .ok (steps ++ [check]) ∧
      (check.outcome = .verdict .rateLimited → ∃ b, check.before.buckets.find? subject = some b ∧
        (∀ back, Follows now back → ∃ after after',
          run settings Store.empty (front ++ ⟨now, .check subject⟩ :: back) =
            .ok (steps ++ check :: after) ∧
          run settings Store.empty (front ++ back) = .ok (steps ++ after') ∧
          (∀ pair ∈ after.zip after', pair.1.Lags subject (refill settings 1) pair.2) ∧
          (CutsNoTick settings b now → ∀ pair ∈ after.zip after', pair.1.Lags subject 0 pair.2 ∧
            (pair.1.call = .check subject → pair.2.outcome = .verdict .success →
              pair.1.outcome = .verdict .success))) ∧
        (¬CutsNoTick settings b now → Repayable settings b →
          ∃ next, now ≤ next ∧ next ≤ Instant.last ∧ ∃ late soon,
            run settings Store.empty (front ++ [⟨now, .check subject⟩, ⟨next, .check subject⟩]) =
              .ok (steps ++ [check, late]) ∧
            run settings Store.empty (front ++ [⟨next, .check subject⟩]) = .ok (steps ++ [soon]) ∧
            late.outcome = .verdict .rateLimited ∧ soon.outcome = .verdict .success)) := by
  obtain ⟨steps, hsteps⟩ : ∃ steps, run settings Store.empty front = .ok steps :=
    exists_run rfl readable unswept
  obtain ⟨sound, hbounded⟩ := lastStore_of_run
    (fun store => store.health = .sound ∧ ∀ key, Bounded settings (store.buckets.find? key))
    bounded_of_perform ⟨rfl, fun key b hb => by cases hb⟩ hsteps
  generalize hstore : lastStore Store.empty steps = store at sound hbounded
  obtain ⟨outcome, left, hperform⟩ : ∃ outcome left,
      (Call.check subject).perform settings store now = .ok (outcome, left) :=
    exists_perform settings sound hnow rfl
  -- what comes after the run so far, with the check and without it
  have hwithout : ∀ {back later}, run settings store back = .ok later →
      run settings Store.empty (front ++ back) = .ok (steps ++ later) := by
    intro back later h
    exact (run_append hsteps (by rw [hstore]; exact h)).1
  have hwith : ∀ {back later}, run settings left back = .ok later →
      run settings Store.empty (front ++ ⟨now, .check subject⟩ :: back) =
        .ok (steps ++ ⟨⟨now, .check subject⟩, store, outcome, left⟩ :: later) :=
    fun h => hwithout (run_cons_of_perform hperform h)
  refine ⟨steps, ⟨⟨now, .check subject⟩, store, outcome, left⟩, hwith rfl, fun limited => ?_⟩
  change outcome = _ at limited
  obtain ⟨b, hb⟩ : ∃ b, store.buckets.find? subject = some b := by
    rw [outcome_of_perform_check sound hperform] at limited
    exact exists_bucket_of_limited capacity perInterval
      (ofRemaining_eq_rateLimited_iff.1 (Outcome.verdict.inj limited))
  refine ⟨b, hb, fun back follows => ?_, fun cut repayable => ?_⟩
  · have hleft := (find?_of_perform sound hperform).1
    obtain ⟨after, hafter⟩ : ∃ after, run settings left back = .ok after :=
      exists_run hleft follows.readable follows.unswept
    obtain ⟨after', hafter'⟩ : ∃ after', run settings store back = .ok after' :=
      exists_run sound follows.readable follows.unswept
    obtain ⟨hone, hnone⟩ :=
      lags_of_check sound (hbounded subject) hb follows hperform hafter hafter'
    refine ⟨after, after', hwith hafter, hwithout hafter', hone, fun whole pair hpair => ?_⟩
    have hlags := hnone whole pair hpair
    refine ⟨hlags, fun checked succeeds => ?_⟩
    have hchecked' : pair.2.call = .check subject := by rw [hlags.toEvent, checked]
    have hpos :=
      (success_iff_of_mem_run sound hafter' (List.of_mem_zip hpair).2 hchecked').1 succeeds
    have hvalue := hlags.value_le
    exact (success_iff_of_mem_run hleft hafter (List.of_mem_zip hpair).1 checked).2 (by omega)
  · obtain ⟨next, hclock, hnext, late, soon, hlate, hsoon, houtcomes⟩ :=
      delayed_of_check capacity sound (hbounded subject) hb hperform limited cut repayable
    exact ⟨next, hclock, hnext, late, soon, hwith hlate, hwithout hsoon, houtcomes⟩

def tens : LimiterSettings := { capacity := 100, interval := 10, perInterval := 10 }

/-- A debt of twenty-five at the start of the clock. -/
def debt : List Event :=
  [⟨0, .check "a"⟩, ⟨0, .charge "a" 125⟩]

/-- The check at fifteen cuts the second tick short. So the one at thirty is limited, but the one at
forty is not, where the subject is still behind by a tick. -/
theorem impatient_cost :
    ∃ steps check, run tens Store.empty (debt ++ [⟨15, .check "a"⟩]) = .ok (steps ++ [check]) ∧
      check.outcome = .verdict .rateLimited ∧
      (∃ after after',
        run tens Store.empty (debt ++ [⟨15, .check "a"⟩, ⟨30, .check "a"⟩, ⟨40, .check "a"⟩]) =
          .ok (steps ++ check :: after) ∧
        run tens Store.empty (debt ++ [⟨30, .check "a"⟩, ⟨40, .check "a"⟩]) =
          .ok (steps ++ after') ∧
        (steps ++ check :: after).map (·.after.buckets.value "a") = [100, -25, -15, -5, 5] ∧
        (steps ++ after').map (·.after.buckets.value "a") = [100, -25, 5, 15] ∧
        ∀ pair ∈ after.zip after', pair.1.Lags "a" 10 pair.2) ∧
      ∃ next, 15 ≤ next ∧ next ≤ Instant.last ∧ ∃ late soon,
        run tens Store.empty (debt ++ [⟨15, .check "a"⟩, ⟨next, .check "a"⟩]) =
          .ok (steps ++ [check, late]) ∧
        run tens Store.empty (debt ++ [⟨next, .check "a"⟩]) = .ok (steps ++ [soon]) ∧
        late.outcome = .verdict .rateLimited ∧ soon.outcome = .verdict .success := by
  obtain ⟨steps, check, hrun, hcost⟩ :=
    rejected_cost tens "a" debt 15 (by decide) (by decide) (by decide) (by decide) (by decide)
  have hlast : ((steps ++ [check]).getLast?).map
      (fun s => (s.outcome, s.before.buckets.find? "a")) =
        some (.verdict .rateLimited, some ⟨-25, 0⟩) := by
    rw [← Except.ok.inj hrun]
    decide +kernel
  obtain ⟨hlimited, hbefore⟩ : check.outcome = .verdict .rateLimited ∧
      check.before.buckets.find? "a" = some ⟨-25, 0⟩ := by simpa using hlast
  obtain ⟨b, hb, hlags, hdelayed⟩ := hcost hlimited
  obtain rfl : b = ⟨-25, 0⟩ := Option.some.inj (hb.symm.trans hbefore)
  obtain ⟨after, after', hafter, hafter', hone, -⟩ :=
    hlags [⟨30, .check "a"⟩, ⟨40, .check "a"⟩] ⟨by decide, by decide, by decide⟩
  refine ⟨steps, check, hrun, hlimited, ⟨after, after', hafter, hafter', ?_, ?_, hone⟩, ?_⟩
  · rw [← Except.ok.inj hafter]
    decide +kernel
  · rw [← Except.ok.inj hafter']
    decide +kernel
  · exact hdelayed (by unfold CutsNoTick; decide) ⟨3, by decide, by decide, by decide⟩

/-- A check nine seconds after going ten seconds into debt is limited, and takes four seconds from
the next tick. So the check six seconds later is limited as well, which would succeed without the
first. -/
theorem polled_delayed :
    ∃ steps steps',
      run {} Store.empty [⟨0, .check "a"⟩, ⟨0, .charge "a" (40 * Span.second)⟩,
        ⟨9 * Span.second, .check "a"⟩, ⟨15 * Span.second, .check "a"⟩] = .ok steps ∧
      run {} Store.empty [⟨0, .check "a"⟩, ⟨0, .charge "a" (40 * Span.second)⟩,
        ⟨15 * Span.second, .check "a"⟩] = .ok steps' ∧
      steps.map (·.outcome) = [.verdict .success, .left (-10 * Span.second), .verdict .rateLimited,
        .verdict .rateLimited] ∧
      steps'.map (·.outcome) =
        [.verdict .success, .left (-10 * Span.second), .verdict .success] := by
  refine ⟨_, _, rfl, rfl, ?_, ?_⟩
  · decide +kernel
  · decide +kernel

end Turnstile.Limiter
