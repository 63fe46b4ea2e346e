import Turnstile.Limiter.Basic
import Turnstile.Proofs.Limiter.Buckets
import Turnstile.Proofs.Token.Claims

/-!
# What checks and charges do to a bucket

Where the store works, and on a clock that can be read, a check or a charge writes one bucket, and
what it writes depends on that bucket alone. The definitions here say what, and the statements say
that nothing else happens. A check comes to two operations on the store, and fails with either.

## Main definitions

- `Store.Works`, `Limiter.Answers` — operations that are in order, and checks that can be answered
- `Limiter.dueTicks`, `Limiter.toppedUp` — what the two steps of a check read and write
- `Limiter.refilled`, `Limiter.charged` — the bucket that a check and a charge leave
- `Limiter.surviving` — what a sweep leaves of a bucket
- `Limiter.refusal` — the verdict on a token that gets no bucket

## Main statements

- `Limiter.checkSubject_of_answers`, `Limiter.checkSubject_of_not_answers` — checks
- `Limiter.useTime_of_sound` — charges
- `Limiter.checkToken_eq` — checks of tokens
- `Limiter.cleanup_eq`, `Limiter.find?_of_cleanup` — sweeps
-/

namespace Turnstile

namespace Store

/-- An operation of a store that is not out of order. -/
def Works (store : Store) (op : Operation) : Prop :=
  op ∉ store.health.faults

variable {store : Store} {key : String} {now : Instant}

theorem works_of_sound (sound : store.health = .sound) (op : Operation) : store.Works op := by
  simp [Works, sound, Health.faults]

theorem require_of_works {op : Operation} (works : store.Works op) : store.require op = .ok () :=
  if_neg works

theorem require_of_not_works {op : Operation} (down : ¬store.Works op) :
    store.require op = .error (.storage .down) :=
  if_pos (Decidable.not_not.1 down)

theorem addCapped_of_works (works : store.Works .addCapped) (hnow : now ≤ Instant.last)
    (amount cap : Int) :
    store.addCapped key amount cap now =
      .ok ((store.buckets.addCapped key amount cap now).1,
        { store with buckets := (store.buckets.addCapped key amount cap now).2 }) := by
  rw [addCapped, require_of_works works, readClock_of_le hnow]
  rfl

theorem charge_of_works (works : store.Works .charge) (hnow : now ≤ Instant.last)
    (amount : Int) :
    store.charge key amount now =
      .ok ((store.buckets.charge key amount now).1,
        { store with buckets := (store.buckets.charge key amount now).2 }) := by
  rw [charge, require_of_works works, readClock_of_le hnow]
  rfl

theorem value_of_works (works : store.Works .value) :
    store.value key = .ok (store.buckets.value key) := by
  rw [value, require_of_works works]
  rfl

theorem lastModified?_of_works (works : store.Works .lastModified) :
    store.lastModified? key = .ok (store.buckets.lastModified? key) := by
  rw [lastModified?, require_of_works works]
  rfl

end Store

namespace Limiter

variable {settings : LimiterSettings} {signer : Signer} {store swept : Store} {subject : String}
  {now : Instant}

/-- The ticks that a check refills a bucket for. -/
def dueTicks (settings : LimiterSettings) (bucket : Option Bucket) (now : Instant) : Nat :=
  match bucket with
  | none => maxTicks
  | some b => ticksSince settings b.lastModified now

/-- The store answers a check of a subject: the operations that the check comes to are not out of
order. -/
def Answers (settings : LimiterSettings) (store : Store) (subject : String)
    (now : Instant) : Prop :=
  store.Works .lastModified ∧
    store.Works
      (if dueTicks settings (store.buckets.find? subject) now = 0 then .value else .addCapped)

/-- A bucket after a refill for some ticks. -/
def toppedUp (settings : LimiterSettings) (bucket : Option Bucket) (ticks : Nat) (now : Instant) :
    Bucket :=
  ⟨(Buckets.capped ((bucket.map (·.value)).getD 0) (refill settings ticks)
    (Budget.ofSpan settings.capacity)).1, now⟩

/-- The bucket that a check leaves: a subject without a bucket gets one, and a bucket is written
only if a tick has passed since it was last written. -/
def refilled (settings : LimiterSettings) (bucket : Option Bucket) (now : Instant) : Bucket :=
  match bucket with
  | none => toppedUp settings none maxTicks now
  | some b =>
    let ticks := ticksSince settings b.lastModified now
    if ticks = 0 then b else toppedUp settings (some b) ticks now

/-- The bucket that a charge leaves. -/
def charged (bucket : Option Bucket) (consumed : Span) (now : Instant) : Bucket :=
  ⟨Budget.clamp ((bucket.map (·.value)).getD 0 - Budget.ofSpan consumed), now⟩

/-- What a sweep leaves of a bucket: one that fails leaves it as it is. -/
def surviving (staleAfter : Span) (now : Instant) (bucket : Option Bucket) : Option Bucket :=
  match Store.threshold staleAfter now with
  | .ok threshold => bucket.filter fun b => threshold ≤ b.lastModified
  | .error _ => bucket

/-- The verdict on a token that does not get as far as its bucket, if it does not. -/
def refusal (settings : LimiterSettings) (signer : Signer) (token : String) (now : Instant) :
    Except Failure (Option Verdict) := do
  match ← QuotaClaims.parse signer token now with
  | none => return some .tokenInvalid
  | some claims => return if ← isExpired settings claims now then some .tokenExpired else none

/-- A bucket for which no tick is due is there, and a check leaves it as it is. -/
theorem exists_of_dueTicks_eq_zero {bucket : Option Bucket}
    (hdue : dueTicks settings bucket now = 0) :
    ∃ b, bucket = some b ∧ refilled settings bucket now = b := by
  cases bucket with
  | none => simp [dueTicks, maxTicks] at hdue
  | some b => exact ⟨b, rfl, if_pos hdue⟩

/-- A check tops a bucket up if a tick is due. -/
theorem refilled_of_dueTicks_ne_zero {bucket : Option Bucket}
    (hdue : dueTicks settings bucket now ≠ 0) :
    refilled settings bucket now =
      toppedUp settings bucket (dueTicks settings bucket now) now := by
  cases bucket with
  | none => rfl
  | some b => exact if_neg hdue

/-! ### The two steps of a check -/

theorem readTicks_of_works (works : store.Works .lastModified) (hnow : now ≤ Instant.last) :
    readTicks settings store subject now =
      .ok (dueTicks settings (store.buckets.find? subject) now) := by
  rw [readTicks, Store.lastModified?_of_works works, Buckets.lastModified?]
  cases store.buckets.find? subject with
  | none => rfl
  | some b =>
    simp only [readClock_of_le hnow]
    rfl

theorem applyTicks_zero (works : store.Works .value) :
    applyTicks settings store subject 0 now = .ok (store.buckets.value subject, store) := by
  rw [applyTicks, if_neg (by omega), Store.value_of_works works]
  rfl

theorem applyTicks_of_pos (works : store.Works .addCapped) (hnow : now ≤ Instant.last) {ticks : Nat}
    (due : 0 < ticks) :
    applyTicks settings store subject ticks now =
      .ok ((toppedUp settings (store.buckets.find? subject) ticks now).value,
        { store with
          buckets := store.buckets.set subject
            (toppedUp settings (store.buckets.find? subject) ticks now) }) := by
  rw [applyTicks, if_pos due, Store.addCapped_of_works works hnow]
  rfl

/-! ### Checks -/

theorem answers_of_sound (sound : store.health = .sound) : Answers settings store subject now :=
  ⟨Store.works_of_sound sound _, Store.works_of_sound sound _⟩

/-- A check leaves the refilled bucket of its subject, and decides by what is in it. -/
theorem checkSubject_of_answers (answers : Answers settings store subject now)
    (hnow : now ≤ Instant.last) :
    checkSubject settings store subject now =
      .ok (Verdict.ofRemaining (refilled settings (store.buckets.find? subject) now).value,
        { store with
          buckets := store.buckets.set subject
            (refilled settings (store.buckets.find? subject) now) }) := by
  obtain ⟨hread, happly⟩ := answers
  rw [checkSubject, readTicks_of_works hread hnow]
  by_cases hdue : dueTicks settings (store.buckets.find? subject) now = 0
  · -- nothing is written, which is the same as writing what is there
    rw [if_pos hdue] at happly
    simp only [bind, Except.bind, hdue, applyTicks_zero happly]
    obtain ⟨b, hfound, hrefilled⟩ := exists_of_dueTicks_eq_zero hdue
    rw [hrefilled, Buckets.set_of_find? hfound, Buckets.value, hfound]
    rfl
  · rw [if_neg hdue] at happly
    simp only [bind, Except.bind, applyTicks_of_pos happly hnow (Nat.pos_of_ne_zero hdue),
      refilled_of_dueTicks_ne_zero hdue]
    rfl

theorem checkSubject_of_sound (sound : store.health = .sound) (hnow : now ≤ Instant.last) :
    checkSubject settings store subject now =
      .ok (Verdict.ofRemaining (refilled settings (store.buckets.find? subject) now).value,
        { store with
          buckets := store.buckets.set subject
            (refilled settings (store.buckets.find? subject) now) }) :=
  checkSubject_of_answers (answers_of_sound sound) hnow

/-- A check that the store does not answer fails with the store. -/
theorem checkSubject_of_not_answers (down : ¬Answers settings store subject now)
    (hnow : now ≤ Instant.last) :
    checkSubject settings store subject now = .error (.storage .down) := by
  -- a step that is out of order is the first to fail, as the other has changed nothing
  by_cases hread : store.Works .lastModified
  · rw [checkSubject, readTicks_of_works hread hnow]
    by_cases hdue : dueTicks settings (store.buckets.find? subject) now = 0
    · have hvalue : ¬store.Works .value := fun works =>
        down ⟨hread, by rwa [if_pos hdue]⟩
      simp only [bind, Except.bind, hdue, applyTicks, Nat.lt_irrefl, if_false, Store.value,
        Store.require_of_not_works hvalue]
    · have hadd : ¬store.Works .addCapped := fun works =>
        down ⟨hread, by rwa [if_neg hdue]⟩
      simp only [bind, Except.bind, applyTicks, gt_iff_lt, Nat.pos_of_ne_zero hdue, if_true,
        Store.addCapped, Store.require_of_not_works hadd]
  · rw [checkSubject, readTicks, Store.lastModified?, Store.require_of_not_works hread]
    rfl

/-- A check cannot be answered on a clock that cannot be read. -/
theorem checkSubject_of_halted (sound : store.health = .sound) (hnow : Instant.last < now) :
    checkSubject settings store subject now = .error .halted := by
  rw [checkSubject, readTicks, Store.lastModified?_of_works (Store.works_of_sound sound _)]
  cases store.buckets.lastModified? subject with
  | none =>
    -- ticks without end are due, and it is the refill that reads the clock
    simp only [bind, Except.bind, pure, Except.pure, applyTicks, maxTicks, Store.addCapped,
      Store.require_of_works (Store.works_of_sound sound _), readClock_of_lt hnow]
    rfl
  | some since =>
    simp only [bind, Except.bind, readClock_of_lt hnow]

/-- A token that is refused leaves the store as it is; any other is checked as its own subject. -/
theorem checkToken_eq (settings : LimiterSettings) (signer : Signer) (store : Store)
    (token : String) (now : Instant) :
    checkToken settings signer store token now =
      (do
        match ← refusal settings signer token now with
        | some verdict => return (verdict, store)
        | none => checkSubject settings store token now) := by
  unfold checkToken refusal
  cases QuotaClaims.parse signer token now with
  | error e => rfl
  | ok claims? =>
    cases claims? with
    | none => rfl
    | some claims =>
      simp only [bind, Except.bind]
      cases isExpired settings claims now with
      | error e => rfl
      | ok expired =>
        cases expired <;> rfl

theorem refusal_of_invalid {token : String} (hnow : now ≤ Instant.last)
    (invalid : ∀ claims, ¬QuotaClaims.Held signer token now claims) :
    refusal settings signer token now = .ok (some .tokenInvalid) := by
  rw [refusal, (QuotaClaims.parse_eq_ok_none_iff hnow).2 invalid]
  rfl

theorem refusal_of_expired {token : String} {claims : QuotaClaims} {timeout : Span}
    (hnow : now ≤ Instant.last) (held : QuotaClaims.Held signer token now claims)
    (limit : settings.tokenTimeout = some timeout) (expired : timeout < claims.age now) :
    refusal settings signer token now = .ok (some .tokenExpired) := by
  rw [refusal, (QuotaClaims.parse_eq_ok_some_iff hnow).2 held]
  simp only [bind, Except.bind, isExpired, limit, readClock_of_le hnow, pure, Except.pure, expired,
    decide_true, if_true]

theorem refusal_of_young {token : String} {claims : QuotaClaims} (hnow : now ≤ Instant.last)
    (held : QuotaClaims.Held signer token now claims)
    (young : ∀ timeout, settings.tokenTimeout = some timeout → claims.age now ≤ timeout) :
    refusal settings signer token now = .ok none := by
  rw [refusal, (QuotaClaims.parse_eq_ok_some_iff hnow).2 held]
  cases hlimit : settings.tokenTimeout with
  | none =>
    simp only [bind, Except.bind, isExpired, hlimit, pure, Except.pure]
    rfl
  | some timeout =>
    have hyoung : ¬timeout < claims.age now := Nat.not_lt.2 (young timeout hlimit)
    simp only [bind, Except.bind, isExpired, hlimit, readClock_of_le hnow, pure,
      Except.pure, hyoung, decide_false]
    rfl

theorem checkToken_of_refused {token : String} {verdict : Verdict}
    (refused : refusal settings signer token now = .ok (some verdict)) :
    checkToken settings signer store token now = .ok (verdict, store) := by
  rw [checkToken_eq, refused]
  rfl

theorem checkToken_of_not_refused {token : String}
    (passed : refusal settings signer token now = .ok none) :
    checkToken settings signer store token now = checkSubject settings store token now := by
  rw [checkToken_eq, passed]
  rfl

/-! ### Failures -/

theorem eq_halted_of_checkSubject (sound : store.health = .sound) {e : Failure}
    (h : checkSubject settings store subject now = .error e) : e = .halted := by
  by_cases hnow : now ≤ Instant.last
  · rw [checkSubject_of_sound sound hnow] at h
    cases h
  · rw [checkSubject_of_halted sound (Int.not_le.1 hnow)] at h
    exact (Except.error.inj h).symm

theorem eq_halted_of_refusal {token : String} {e : Failure}
    (h : refusal settings signer token now = .error e) : e = .halted := by
  rcases eq_error_or_exists_of_bind_eq_error h with hparse | ⟨claims?, -, h⟩
  · exact QuotaClaims.eq_halted_of_parse hparse
  cases claims? with
  | none => cases h
  | some claims =>
    rcases eq_error_or_exists_of_bind_eq_error h with hexpired | ⟨expired, -, hend⟩
    · unfold isExpired at hexpired
      split at hexpired
      · cases hexpired
      · rcases eq_error_or_exists_of_bind_eq_error hexpired with hclock | ⟨_, -, hend⟩
        · exact eq_halted_of_readClock hclock
        · cases hend
    · cases hend

theorem eq_halted_of_checkToken (sound : store.health = .sound) {token : String} {e : Failure}
    (h : checkToken settings signer store token now = .error e) : e = .halted := by
  rw [checkToken_eq] at h
  rcases eq_error_or_exists_of_bind_eq_error h with hrefusal | ⟨refused, -, h⟩
  · exact eq_halted_of_refusal hrefusal
  cases refused with
  | some verdict => cases h
  | none => exact eq_halted_of_checkSubject sound h

/-! ### Bounds -/

theorem value_toppedUp_le_capacity (settings : LimiterSettings) (bucket : Option Bucket)
    (ticks : Nat) (now : Instant) :
    (toppedUp settings bucket ticks now).value ≤ Budget.ofSpan settings.capacity := by
  unfold toppedUp Buckets.capped
  dsimp only
  split
  · exact Int.le_refl _
  · next h => exact Int.not_lt.1 h

/-- A refill adds at most what its ticks are worth. -/
theorem value_toppedUp_le_add {b : Bucket} (hleast : Budget.least ≤ b.value) (ticks : Nat) :
    (toppedUp settings (some b) ticks now).value ≤ b.value + refill settings ticks := by
  have hrefill : 0 ≤ refill settings ticks := Budget.ofSpan_nonneg _
  have hclamp : Budget.clamp (b.value + refill settings ticks) ≤ b.value + refill settings ticks :=
    Budget.clamp_le (by omega)
  unfold toppedUp Buckets.capped
  simp only [Option.map_some, Option.getD_some]
  split
  · omega
  · exact hclamp

/-- A refill is cut off at the capacity. -/
theorem value_toppedUp (bucket : Option Bucket)
    (hleast : Budget.least ≤ (bucket.map (·.value)).getD 0) (ticks : Nat) :
    (toppedUp settings bucket ticks now).value =
      min (Budget.ofSpan settings.capacity)
        ((bucket.map (·.value)).getD 0 + refill settings ticks) := by
  have hrefill : 0 ≤ refill settings ticks := Budget.ofSpan_nonneg _
  have hcapacity : Budget.ofSpan settings.capacity ≤ Budget.greatest := Int.min_le_right _ _
  unfold toppedUp Buckets.capped Budget.clamp
  dsimp only
  split <;> omega

/-- What a check leaves in a bucket that is within the capacity. -/
theorem value_refilled {b : Bucket} (hleast : Budget.least ≤ b.value)
    (within : b.value ≤ Budget.ofSpan settings.capacity) (now : Instant) :
    (refilled settings (some b) now).value =
      min (Budget.ofSpan settings.capacity)
        (b.value + refill settings (ticksSince settings b.lastModified now)) := by
  unfold refilled
  dsimp only
  split
  · next hticks =>
    have hnothing : refill settings 0 = 0 := rfl
    rw [hticks, hnothing, Int.add_zero, Int.min_eq_right within]
  · exact value_toppedUp (some b) hleast _

/-- A subject without a bucket begins with what ticks without end are worth, as far as the capacity
goes. -/
theorem value_refilled_none (settings : LimiterSettings) (now : Instant) :
    (refilled settings none now).value =
      min (Budget.ofSpan settings.capacity) (refill settings maxTicks) := by
  have hleast : Budget.least ≤ ((none : Option Bucket).map (·.value)).getD 0 := by decide
  refine (value_toppedUp none hleast maxTicks).trans ?_
  rw [Option.map_none, Option.getD_none, Int.zero_add]

theorem least_le_value_toppedUp (settings : LimiterSettings) (bucket : Option Bucket)
    (ticks : Nat) (now : Instant) :
    Budget.least ≤ (toppedUp settings bucket ticks now).value := by
  have hcapacity : 0 ≤ Budget.ofSpan settings.capacity := Budget.ofSpan_nonneg _
  unfold toppedUp Buckets.capped
  dsimp only
  split
  · unfold Budget.least
    omega
  · exact Budget.least_le_clamp _

/-! ### Charges and sweeps -/

theorem useTime_of_sound (sound : store.health = .sound) (hnow : now ≤ Instant.last)
    (consumed : Span) :
    useTime store subject consumed now =
      .ok ((charged (store.buckets.find? subject) consumed now).value,
        { store with
          buckets := store.buckets.set subject
            (charged (store.buckets.find? subject) consumed now) }) := by
  rw [useTime, Store.charge_of_works (Store.works_of_sound sound _) hnow]
  rfl

theorem useTime_of_halted (sound : store.health = .sound) (hnow : Instant.last < now)
    (consumed : Span) : useTime store subject consumed now = .error .halted := by
  rw [useTime, Store.charge, Store.require_of_works (Store.works_of_sound sound _),
    readClock_of_lt hnow]
  rfl

/-- A sweep that ends leaves of every bucket what survives. -/
theorem find?_of_cleanup (sound : store.health = .sound) {staleAfter : Span} {swept : Store}
    (h : cleanup store staleAfter now = .ok swept) :
    swept.health = .sound ∧
      ∀ key, swept.buckets.find? key = surviving staleAfter now (store.buckets.find? key) := by
  unfold cleanup Store.clean at h
  rw [Store.require_of_works (Store.works_of_sound sound _)] at h
  unfold surviving
  cases hthreshold : Store.threshold staleAfter now with
  | ok threshold =>
    rw [hthreshold] at h
    obtain rfl := Except.ok.inj h
    exact ⟨sound, fun key => Buckets.find?_sweep _ _ key⟩
  | error e =>
    rw [hthreshold] at h
    cases e with
    | halted => cases h
    | _ =>
      obtain rfl := Except.ok.inj h
      exact ⟨sound, fun key => rfl⟩

/-- A sweep of a sound store passes over an age that is refused, and stops at a threshold that the
calendar does not have. Otherwise it removes what was last written before the threshold. -/
theorem cleanup_eq (sound : store.health = .sound) (hnow : now ≤ Instant.last) (staleAfter : Span) :
    cleanup store staleAfter now =
      if Span.longest < staleAfter then .ok store
      else if Instant.first ≤ now - (staleAfter : Int) then
        .ok { store with buckets := store.buckets.sweep (now - (staleAfter : Int)) }
      else .error .halted := by
  unfold cleanup Store.clean Store.threshold
  rw [Store.require_of_works (Store.works_of_sound sound _), readClock_of_le hnow]
  by_cases hlong : Span.longest < staleAfter
  · simp [hlong, bind, Except.bind, throw, throwThe, MonadExceptOf.throw]
  · by_cases hfirst : Instant.first ≤ now - (staleAfter : Int)
    · simp [hlong, hfirst, bind, Except.bind, pure, Except.pure]
    · simp [hlong, hfirst, bind, Except.bind, throw, throwThe, MonadExceptOf.throw]

theorem exists_cleanup_iff (sound : store.health = .sound) (hnow : now ≤ Instant.last)
    (staleAfter : Span) :
    (∃ swept, cleanup store staleAfter now = .ok swept) ↔
      (staleAfter ≤ Span.longest → Instant.first ≤ now - (staleAfter : Int)) := by
  rw [cleanup_eq sound hnow, ← Nat.not_lt]
  by_cases hlong : Span.longest < staleAfter
  · simp [hlong]
  · by_cases hfirst : Instant.first ≤ now - (staleAfter : Int)
    · simp [hlong, hfirst]
    · simp [hlong, hfirst]

/-- A sweep that ends passes over an age that is refused, and else removes what was last written
longer ago. -/
theorem eq_or_find?_of_cleanup (sound : store.health = .sound) (hnow : now ≤ Instant.last)
    {staleAfter : Span} (h : cleanup store staleAfter now = .ok swept) :
    (Span.longest < staleAfter ∧ swept = store) ∨
      (staleAfter ≤ Span.longest ∧ swept.health = .sound ∧ ∀ key, swept.buckets.find? key =
        (store.buckets.find? key).filter fun b => now - (staleAfter : Int) ≤ b.lastModified) := by
  rw [cleanup_eq sound hnow] at h
  split at h
  · next hlong => exact Or.inl ⟨hlong, (Except.ok.inj h).symm⟩
  · next hlong =>
    split at h
    · obtain rfl := Except.ok.inj h
      exact Or.inr ⟨Nat.not_lt.1 hlong, sound, fun key => Buckets.find?_sweep _ _ key⟩
    · cases h

end Limiter

end Turnstile
