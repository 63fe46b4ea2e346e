import Turnstile.Proofs.Limiter.Bound

/-!
# What a run does to one subject

The calls that concern a subject are those on it, and the sweeps. All others could be left out of a
run without the subject noticing: what it is answered, and what is in its bucket after each call,
stays the same.

## Main definitions

- `Limiter.Call.concerns` — calls on a subject, and sweeps
- `Limiter.Step.view` — what a subject sees of one step of a run

## Main statements

- `Limiter.exists_run` — on a clock that can be read, a run without sweeps ends
- `Limiter.view_of_run_filter` — leaving out what does not concern a subject
- `Limiter.value_le_value_onBucket` — a check does not lower a bucket
-/

namespace Turnstile.Limiter

/-- The subject of a call; a sweep is on none. -/
def Call.subject? : Call → Option String
  | .check subject => some subject
  | .checkToken _ token => some token
  | .charge subject _ => some subject
  | .sweep _ => none

/-- A call on the subject, or a sweep. -/
def Call.concerns (subject : String) (call : Call) : Bool :=
  call.subject?.all (· = subject)

/-- What a subject sees of a step: the call, its answer, and its bucket afterwards. -/
def Step.view (subject : String) (s : Step) : Event × Outcome × Option Bucket :=
  (s.toEvent, s.outcome, s.after.buckets.find? subject)

variable {settings : LimiterSettings} {store other after : Store} {subject : String} {now : Instant}
  {call : Call} {outcome : Outcome} {events : List Event} {steps : List Step}

/-! ### Single calls -/

theorem onBucket_of_not_concerns (h : call.concerns subject = false) (bucket : Option Bucket) :
    call.onBucket settings subject now bucket = bucket := by
  cases call with
  | check key =>
    have hne : subject ≠ key := by
      rintro rfl
      simp [Call.concerns, Call.subject?] at h
    exact if_neg hne
  | checkToken signer token =>
    have hne : subject ≠ token := by
      rintro rfl
      simp [Call.concerns, Call.subject?] at h
    rw [Call.onBucket]
    split
    · exact if_neg hne
    · rfl
  | charge key consumed =>
    have hne : subject ≠ key := by
      rintro rfl
      simp [Call.concerns, Call.subject?] at h
    exact if_neg hne
  | sweep staleAfter => cases h

/-- On a clock that can be read, a token is either refused or not. -/
theorem exists_refusal (settings : LimiterSettings) (signer : Signer) (token : String)
    (hnow : now ≤ Instant.last) :
    ∃ refused, refusal settings signer token now = .ok refused := by
  by_cases hheld : ∃ claims, QuotaClaims.Held signer token now claims
  · obtain ⟨claims, hheld⟩ := hheld
    by_cases hold : ∃ timeout, settings.tokenTimeout = some timeout ∧ timeout < claims.age now
    · obtain ⟨timeout, hlimit, hexpired⟩ := hold
      exact ⟨_, refusal_of_expired hnow hheld hlimit hexpired⟩
    · refine ⟨_, refusal_of_young hnow hheld fun timeout hlimit => Nat.not_lt.1 fun hexpired => ?_⟩
      exact hold ⟨timeout, hlimit, hexpired⟩
  · exact ⟨_, refusal_of_invalid hnow (not_exists.1 hheld)⟩

/-- On a clock that can be read, a call that is no sweep is answered. -/
theorem exists_perform (settings : LimiterSettings) (sound : store.health = .sound)
    (hnow : now ≤ Instant.last) (unswept : call.isSweep = false) :
    ∃ outcome after, call.perform settings store now = .ok (outcome, after) := by
  cases call with
  | check key =>
    rw [Call.perform, checkSubject_of_sound sound hnow]
    exact ⟨_, _, rfl⟩
  | checkToken signer token =>
    obtain ⟨refused, hrefused⟩ := exists_refusal settings signer token hnow
    rw [Call.perform]
    cases refused with
    | some verdict =>
      rw [checkToken_of_refused hrefused]
      exact ⟨_, _, rfl⟩
    | none =>
      rw [checkToken_of_not_refused hrefused, checkSubject_of_sound sound hnow]
      exact ⟨_, _, rfl⟩
  | charge key consumed =>
    rw [Call.perform, useTime_of_sound sound hnow]
    exact ⟨_, _, rfl⟩
  | sweep staleAfter => cases unswept

theorem checkSubject_congr (sound : store.health = .sound) (sound' : other.health = .sound)
    (same : other.buckets.find? subject = store.buckets.find? subject) {v : Verdict}
    (h : checkSubject settings store subject now = .ok (v, after)) :
    ∃ after', checkSubject settings other subject now = .ok (v, after') := by
  by_cases hnow : now ≤ Instant.last
  · rw [checkSubject_of_sound sound hnow] at h
    obtain ⟨rfl, -⟩ := Prod.mk.inj (Except.ok.inj h)
    rw [checkSubject_of_sound sound' hnow, same]
    exact ⟨_, rfl⟩
  · rw [checkSubject_of_halted sound (Int.not_le.1 hnow)] at h
    cases h

theorem exists_cleanup (sound : store.health = .sound) (sound' : other.health = .sound)
    {staleAfter : Span} (h : cleanup store staleAfter now = .ok after) :
    ∃ after', cleanup other staleAfter now = .ok after' := by
  unfold cleanup Store.clean at h ⊢
  rw [Store.require_of_works (Store.works_of_sound sound _)] at h
  rw [Store.require_of_works (Store.works_of_sound sound' _)]
  cases hthreshold : Store.threshold staleAfter now with
  | ok threshold => exact ⟨_, rfl⟩
  | error e =>
    rw [hthreshold] at h
    cases e with
    | halted => cases h
    | _ => exact ⟨_, rfl⟩

/-- A call that concerns a subject is answered alike in all stores in which the subject has the same
bucket. -/
theorem perform_congr (sound : store.health = .sound) (sound' : other.health = .sound)
    (same : other.buckets.find? subject = store.buckets.find? subject)
    (concerns : call.concerns subject = true)
    (h : call.perform settings store now = .ok (outcome, after)) :
    ∃ after', call.perform settings other now = .ok (outcome, after') := by
  cases call with
  | check key =>
    obtain rfl : key = subject := by simpa [Call.concerns, Call.subject?] using concerns
    obtain ⟨⟨v, left⟩, hcheck, hend⟩ := exists_of_bind_eq_ok h
    obtain ⟨rfl, rfl⟩ := Prod.mk.inj (Except.ok.inj hend)
    obtain ⟨left', hcheck'⟩ := checkSubject_congr sound sound' same hcheck
    rw [Call.perform, hcheck']
    exact ⟨_, rfl⟩
  | checkToken signer token =>
    obtain rfl : token = subject := by simpa [Call.concerns, Call.subject?] using concerns
    obtain ⟨⟨v, left⟩, hcheck, hend⟩ := exists_of_bind_eq_ok h
    obtain ⟨rfl, rfl⟩ := Prod.mk.inj (Except.ok.inj hend)
    rw [checkToken_eq] at hcheck
    obtain ⟨refused, hrefusal, hcheck⟩ := exists_of_bind_eq_ok hcheck
    cases refused with
    | some verdict =>
      obtain ⟨rfl, -⟩ := Prod.mk.inj (Except.ok.inj hcheck)
      rw [Call.perform, checkToken_of_refused hrefusal]
      exact ⟨_, rfl⟩
    | none =>
      obtain ⟨left', hcheck'⟩ := checkSubject_congr sound sound' same hcheck
      rw [Call.perform, checkToken_of_not_refused hrefusal, hcheck']
      exact ⟨_, rfl⟩
  | charge key consumed =>
    obtain rfl : key = subject := by simpa [Call.concerns, Call.subject?] using concerns
    obtain ⟨⟨left, stored⟩, hcharge, hend⟩ := exists_of_bind_eq_ok h
    obtain ⟨rfl, rfl⟩ := Prod.mk.inj (Except.ok.inj hend)
    by_cases hnow : now ≤ Instant.last
    · obtain ⟨rfl, -⟩ := useTime_cases sound hcharge
      rw [Call.perform, useTime_of_sound sound' hnow, same]
      exact ⟨_, rfl⟩
    · rw [useTime_of_halted sound (Int.not_le.1 hnow)] at hcharge
      cases hcharge
  | sweep staleAfter =>
    obtain ⟨swept, hsweep, hend⟩ := exists_of_bind_eq_ok h
    obtain ⟨rfl, rfl⟩ := Prod.mk.inj (Except.ok.inj hend)
    obtain ⟨swept', hsweep'⟩ := exists_cleanup sound sound' hsweep
    rw [Call.perform, hsweep']
    exact ⟨_, rfl⟩

/-! ### Checks do not lower a bucket -/

theorem value_le_value_toppedUp {bucket : Option Bucket} (h : Bounded settings bucket)
    (ticks : Nat) :
    (bucket.map (·.value)).getD 0 ≤ (toppedUp settings bucket ticks now).value := by
  have hrefill : 0 ≤ refill settings ticks := Budget.ofSpan_nonneg _
  have hcapacity : 0 ≤ Budget.ofSpan settings.capacity := Budget.ofSpan_nonneg _
  have hgreatest : Budget.ofSpan settings.capacity ≤ Budget.greatest := Int.min_le_right _ _
  have hvalue : (bucket.map (·.value)).getD 0 ≤ Budget.ofSpan settings.capacity := by
    cases bucket with
    | none => exact hcapacity
    | some b => exact (h b rfl).2
  unfold toppedUp Buckets.capped Budget.clamp
  dsimp only
  split <;> omega

theorem value_le_value_refilled {bucket : Option Bucket} (h : Bounded settings bucket) :
    (bucket.map (·.value)).getD 0 ≤ (refilled settings bucket now).value := by
  by_cases hdue : dueTicks settings bucket now = 0
  · obtain ⟨b, rfl, hrefilled⟩ := exists_of_dueTicks_eq_zero hdue
    rw [hrefilled]
    exact Int.le_refl _
  · rw [refilled_of_dueTicks_ne_zero hdue]
    exact value_le_value_toppedUp h _

/-- A check, of a subject or of a token, leaves no bucket with less in it. -/
theorem value_le_value_onBucket {bucket : Option Bucket} (h : Bounded settings bucket)
    (check : (∃ key, call = .check key) ∨ ∃ signer token, call = .checkToken signer token) :
    (bucket.map (·.value)).getD 0 ≤
      ((call.onBucket settings subject now bucket).map (·.value)).getD 0 := by
  obtain ⟨key, rfl⟩ | ⟨signer, token, rfl⟩ := check
  · rw [Call.onBucket]
    split
    · exact value_le_value_refilled h
    · exact Int.le_refl _
  · rw [Call.onBucket]
    split
    · split
      · exact value_le_value_refilled h
      · exact Int.le_refl _
    · exact Int.le_refl _

/-! ### Runs -/

/-- On a clock that can be read, a run without sweeps ends. -/
theorem exists_run (sound : store.health = .sound) (readable : ∀ e ∈ events, e.now ≤ Instant.last)
    (unswept : ∀ e ∈ events, e.call.isSweep = false) :
    ∃ steps, run settings store events = .ok steps := by
  induction events generalizing store with
  | nil => exact ⟨[], rfl⟩
  | cons e rest ih =>
    obtain ⟨outcome, after, hperform⟩ := exists_perform settings sound
      (readable e List.mem_cons_self) (unswept e List.mem_cons_self)
    obtain ⟨steps, hrest⟩ := ih (find?_of_perform sound hperform).1
      (fun e' he' => readable e' (List.mem_cons_of_mem _ he'))
      (fun e' he' => unswept e' (List.mem_cons_of_mem _ he'))
    exact ⟨_, run_cons_of_perform hperform hrest⟩

/-- A subject sees the same of a run and of what is left of it without the calls that do not concern
the subject. -/
theorem view_of_run_filter (sound : store.health = .sound) (sound' : other.health = .sound)
    (same : other.buckets.find? subject = store.buckets.find? subject)
    (h : run settings store events = .ok steps) :
    ∃ steps', run settings other (events.filter fun e => e.call.concerns subject) = .ok steps' ∧
      steps'.map (Step.view subject) =
        (steps.filter fun s => s.call.concerns subject).map (Step.view subject) := by
  -- on the calls, with two stores in which the subject has the same bucket
  induction events generalizing store other steps with
  | nil =>
    obtain rfl := Except.ok.inj h
    exact ⟨[], rfl, rfl⟩
  | cons e rest ih =>
    obtain ⟨outcome, after, steps, hperform, hrest, rfl⟩ := run_cons_eq_ok h
    obtain ⟨hsound, hfind⟩ := find?_of_perform sound hperform
    cases hconcerns : e.call.concerns subject with
    | true =>
      obtain ⟨after', hperform'⟩ := perform_congr sound sound' same hconcerns hperform
      obtain ⟨hsound', hfind'⟩ := find?_of_perform sound' hperform'
      have hsame : after'.buckets.find? subject = after.buckets.find? subject := by
        rw [hfind, hfind', same]
      obtain ⟨steps', hrun', hviews⟩ := ih hsound hsound' hsame hrest
      refine ⟨⟨e, other, outcome, after'⟩ :: steps', ?_, ?_⟩
      · rw [List.filter_cons_of_pos (by exact hconcerns)]
        exact run_cons_of_perform hperform' hrun'
      · rw [List.filter_cons_of_pos (by exact hconcerns), List.map_cons, List.map_cons, hviews]
        simp [Step.view, hsame]
    | false =>
      have hsame : other.buckets.find? subject = after.buckets.find? subject := by
        rw [hfind, onBucket_of_not_concerns hconcerns, same]
      obtain ⟨steps', hrun', hviews⟩ := ih hsound sound' hsame hrest
      refine ⟨steps', ?_, ?_⟩
      · rw [List.filter_cons_of_neg (by simp [hconcerns])]
        exact hrun'
      · rw [List.filter_cons_of_neg (by simp [hconcerns])]
        exact hviews

end Turnstile.Limiter
