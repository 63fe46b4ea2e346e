import Turnstile.Proofs.Limiter.Check

/-!
# Faults of the store

An operation of the store that is out of order does nothing and fails. What is made of several
operations could still be cut in the middle, and then a store would be left that is neither as it
was nor as it should be. To say that this never happens, the limiter is spelled out here as actions
that keep whatever was written before a failure. They come to the same as the limiter, as it asks
all that can fail before it writes.

## Main definitions

- `Store.Action` — what is done to a store, with what is left of it even by a failure
- `Store.Action.call`, `Store.Action.ask` — single operations that write, and that only read
- `Store.Action.FailsClosed` — no fault makes a difference but that the store is reported to be down

## Main statements

- `Store.Action.FailsClosed.bind`, `Store.Action.FailsClosed.bind_lift` — what may come before an
  action that writes, and what may come after it
- `Store.Action.call_checkSubject`, `Store.Action.call_checkToken` — the limiter is made of its
  operations
- `Store.Action.failsClosed_checkSubject`, `Store.Action.failsClosed_checkToken` — the limiter fails
  closed
-/

namespace Turnstile.Store

/-- What is done to a store: it may fail, and even then it leaves a store. -/
def Action (α : Type) : Type :=
  Store → Except Failure α × Store

namespace Action

variable {α β : Type}

instance : Monad Action where
  pure a := fun store => (.ok a, store)
  bind p q := fun store =>
    match p store with
    | (.ok a, after) => q a after
    | (.error e, after) => (.error e, after)

/-- A decision that no store is needed for. -/
def lift (result : Except Failure α) : Action α :=
  fun store => (result, store)

/-- An operation that only reads. -/
def ask (read : Store → Except Failure α) : Action α :=
  fun store => (read store, store)

/-- An operation that leaves a store unless it fails; then the store is as it was. -/
def call (perform : Store → Except Failure (α × Store)) : Action α :=
  fun store =>
    match perform store with
    | .ok (a, after) => (.ok a, after)
    | .error e => (.error e, store)

/-- The action leaves every store as it is. -/
def OnlyReads (p : Action α) : Prop :=
  ∀ store, (p store).2 = store

/-- Whatever is out of order, the action does what it does in a sound store, or it reports that the
store is down and leaves it as it was. -/
def FailsClosed (p : Action α) : Prop :=
  ∀ faults buckets,
    p ⟨.flaky faults, buckets⟩ =
        ((p ⟨.sound, buckets⟩).1, ⟨.flaky faults, (p ⟨.sound, buckets⟩).2.buckets⟩) ∨
      p ⟨.flaky faults, buckets⟩ = (.error (.storage .down), ⟨.flaky faults, buckets⟩)

/-! ### The limiter in single operations -/

section Limiter

open Turnstile.Limiter (maxTicks ticksSince refill isExpired)

def readTicks (settings : LimiterSettings) (subject : String) (now : Instant) : Action Nat := do
  match ← ask (·.lastModified? subject) with
  | none => return maxTicks
  | some since => return ticksSince settings since (← lift (readClock now))

def applyTicks (settings : LimiterSettings) (subject : String) (ticks : Nat) (now : Instant) :
    Action Int := do
  if ticks > 0 then
    let (remaining, _) ←
      call (·.addCapped subject (refill settings ticks) (Budget.ofSpan settings.capacity) now)
    return remaining
  else
    ask (·.value subject)

def checkSubject (settings : LimiterSettings) (subject : String) (now : Instant) :
    Action Verdict := do
  let ticks ← readTicks settings subject now
  let remaining ← applyTicks settings subject ticks now
  return Verdict.ofRemaining remaining

def checkToken (settings : LimiterSettings) (signer : Signer) (token : String) (now : Instant) :
    Action Verdict := do
  match ← lift (QuotaClaims.parse signer token now) with
  | none => return .tokenInvalid
  | some claims =>
    if ← lift (isExpired settings claims now) then return .tokenExpired
    else checkSubject settings token now

def useTime (subject : String) (consumed : Span) (now : Instant) : Action Int :=
  call (·.charge subject (Budget.ofSpan consumed) now)

end Limiter

open Turnstile.Limiter (maxTicks ticksSince)

variable {p : Action α} {q : α → Action β} {settings : LimiterSettings} {signer : Signer}
  {subject token : String}
  {now : Instant} {store : Store} {ticks : Nat}

/-! ### Actions one after the other -/

theorem bind_of_ok {a : α} {after : Store} (h : p store = (.ok a, after)) :
    (p >>= q) store = q a after := by
  change (match p store with
    | (.ok a, after) => q a after
    | (.error e, after) => (.error e, after)) = _
  rw [h]

theorem bind_of_error {e : Failure} {after : Store} (h : p store = (.error e, after)) :
    (p >>= q) store = (.error e, after) := by
  change (match p store with
    | (.ok a, after) => q a after
    | (.error e, after) => (.error e, after)) = _
  rw [h]

theorem ask_of_eq {read : Store → Except Failure α} {result : Except Failure α}
    (h : read store = result) :
    ask read store = (result, store) :=
  Prod.ext h rfl

theorem call_of_ok {perform : Store → Except Failure (α × Store)} {a : α} {after : Store}
    (h : perform store = .ok (a, after)) : call perform store = (.ok a, after) := by
  simp only [call, h]

theorem call_of_error {perform : Store → Except Failure (α × Store)} {e : Failure}
    (h : perform store = .error e) : call perform store = (.error e, store) := by
  simp only [call, h]

theorem lift_bind (result : Except Failure α) (next : α → Except Failure β) :
    (lift result >>= fun a => lift (next a)) = lift (result >>= next) := by
  funext store
  cases result <;> rfl

theorem failsClosed_lift (result : Except Failure α) : FailsClosed (lift result) :=
  fun _ _ => Or.inl rfl

theorem onlyReads_lift (result : Except Failure α) : OnlyReads (lift result) :=
  fun _ => rfl

theorem onlyReads_ask (read : Store → Except Failure α) : OnlyReads (ask read) :=
  fun _ => rfl

/-- What only reads may come before any action. -/
theorem FailsClosed.bind (hp : FailsClosed p) (reads : OnlyReads p) (hq : ∀ a, FailsClosed (q a)) :
    FailsClosed (p >>= q) := by
  intro faults buckets
  have hsound : p ⟨.sound, buckets⟩ = ((p ⟨.sound, buckets⟩).1, ⟨.sound, buckets⟩) :=
    Prod.ext rfl (reads _)
  rcases hp faults buckets with hsame | hdown
  · rw [reads ⟨.sound, buckets⟩] at hsame
    cases hresult : (p ⟨.sound, buckets⟩).1 with
    | ok a =>
      rw [hresult] at hsound hsame
      rw [bind_of_ok hsound, bind_of_ok hsame]
      exact hq a faults buckets
    | error e =>
      rw [hresult] at hsound hsame
      rw [bind_of_error hsound, bind_of_error hsame]
      exact Or.inl rfl
  · exact Or.inr (bind_of_error hdown)

/-- After any action there may come what does not ask the store. -/
theorem FailsClosed.bind_lift (hp : FailsClosed p) (result : α → Except Failure β) :
    FailsClosed (p >>= fun a => lift (result a)) := by
  intro faults buckets
  rcases hp faults buckets with hsame | hdown
  · apply Or.inl
    rcases hsound : p ⟨.sound, buckets⟩ with ⟨outcome, after⟩
    rw [hsound] at hsame
    cases outcome with
    | ok a =>
      rw [bind_of_ok hsound, bind_of_ok hsame]
      rfl
    | error e =>
      rw [bind_of_error hsound, bind_of_error hsame]
  · exact Or.inr (bind_of_error hdown)

/-! ### Single operations -/

/-- An operation that reads the buckets, if it is in order. -/
theorem failsClosed_ask (op : Operation) (read : Buckets → α) :
    FailsClosed (ask fun store => do
      store.require op
      return read store.buckets) := by
  intro faults buckets
  by_cases h : op ∈ faults
  · apply Or.inr
    simp [ask, require, Health.faults, h, bind, Except.bind]
  · apply Or.inl
    simp [ask, require, Health.faults, h]

/-- An operation that writes the buckets, if it is in order and the clock can be read. -/
theorem failsClosed_call (op : Operation) (now : Instant)
    (write : Instant → Buckets → α × Buckets) :
    FailsClosed (call fun store => do
      store.require op
      let now ← readClock now
      return ((write now store.buckets).1,
        { store with buckets := (write now store.buckets).2 })) := by
  intro faults buckets
  by_cases h : op ∈ faults
  · apply Or.inr
    simp [call, require, Health.faults, h, bind, Except.bind]
  · apply Or.inl
    by_cases hnow : now ≤ Instant.last
    · simp [call, require, Health.faults, h, readClock, hnow, bind, Except.bind, pure, Except.pure]
    · simp [call, require, Health.faults, h, readClock, hnow, bind, Except.bind]

theorem failsClosed_useTime (subject : String) (consumed : Span) (now : Instant) :
    FailsClosed (useTime subject consumed now) :=
  failsClosed_call .charge now fun now buckets => buckets.charge subject
    (Budget.ofSpan consumed) now

/-- A call that reads first is an action that reads first. -/
theorem call_bind_ask (read : Store → Except Failure α)
    (perform : α → Store → Except Failure (β × Store)) :
    call (fun store => do perform (← read store) store) = ask read >>=
      fun a => call (perform a) := by
  funext store
  cases h : read store with
  | ok a =>
    rw [bind_of_ok (ask_of_eq h)]
    simp only [call, h, bind, Except.bind]
  | error e =>
    rw [bind_of_error (ask_of_eq h)]
    simp only [call, h, bind, Except.bind]

/-- A call that decides something in the end is an action that does. -/
theorem call_bind_pure (perform : Store → Except Failure (α × Store)) (decide : α → β) :
    call (fun store => do
      let (a, after) ← perform store
      return (decide a, after)) = call perform >>= fun a => pure (decide a) := by
  funext store
  cases h : perform store with
  | ok result =>
    rw [bind_of_ok (call_of_ok h)]
    simp only [call, h, bind, Except.bind]
    rfl
  | error e =>
    rw [bind_of_error (call_of_error h)]
    simp only [call, h, bind, Except.bind]

/-! ### The limiter -/

theorem ask_readTicks (settings : LimiterSettings) (subject : String) (now : Instant) :
    ask (Limiter.readTicks settings · subject now) = readTicks settings subject now := by
  funext store
  unfold readTicks Limiter.readTicks
  cases h : store.lastModified? subject with
  | error e =>
    rw [bind_of_error (ask_of_eq h)]
    simp only [ask, h, bind, Except.bind]
  | ok since? =>
    rw [bind_of_ok (ask_of_eq h)]
    cases since? with
    | none => simp [ask, h, bind, Except.bind, pure, Except.pure]
    | some since =>
      cases readClock now <;> simp [ask, lift, h, bind, Except.bind, pure, Except.pure]

theorem call_applyTicks (settings : LimiterSettings) (subject : String) (ticks : Nat)
    (now : Instant) :
    call (Limiter.applyTicks settings · subject ticks now) =
      applyTicks settings subject ticks now := by
  unfold applyTicks Limiter.applyTicks
  by_cases hticks : ticks > 0
  · simp only [if_pos hticks]
    exact call_bind_pure (·.addCapped subject _ _ now) fun next => next.1
  · simp only [if_neg hticks]
    funext store
    cases h : store.value subject <;> simp [call, ask, h, bind, Except.bind, pure, Except.pure]

/-- The limiter checks a subject by its single operations. -/
theorem call_checkSubject (settings : LimiterSettings) (subject : String) (now : Instant) :
    call (Limiter.checkSubject settings · subject now) = checkSubject settings subject now := by
  refine (call_bind_ask (Limiter.readTicks settings · subject now) _).trans ?_
  rw [ask_readTicks]
  refine congrArg (readTicks settings subject now >>= ·) (funext fun ticks => ?_)
  refine (call_bind_pure (Limiter.applyTicks settings · subject ticks now)
    Verdict.ofRemaining).trans ?_
  rw [call_applyTicks]

theorem call_checkToken (settings : LimiterSettings) (signer : Signer) (token : String)
    (now : Instant) :
    call (Limiter.checkToken settings signer · token now) =
      checkToken settings signer token now := by
  have hparse : call (Limiter.checkToken settings signer · token now) =
      (lift (QuotaClaims.parse signer token now) >>= fun claims? => call fun store =>
        match claims? with
        | none => .ok (.tokenInvalid, store)
        | some claims => do
          if ← Limiter.isExpired settings claims now then return (.tokenExpired, store)
          else Limiter.checkSubject settings store token now) :=
    call_bind_ask (fun _ => QuotaClaims.parse signer token now) _
  rw [hparse]
  unfold checkToken
  congr 1
  funext claims?
  cases claims? with
  | none => rfl
  | some claims =>
    refine (call_bind_ask (fun _ => Limiter.isExpired settings claims now) _).trans ?_
    refine congrArg (lift (Limiter.isExpired settings claims now) >>= ·) (funext fun expired => ?_)
    cases expired with
    | true => rfl
    | false => exact call_checkSubject settings token now

theorem onlyReads_readTicks : OnlyReads (readTicks settings subject now) := by
  rw [← ask_readTicks]
  exact onlyReads_ask _

theorem failsClosed_readTicks : FailsClosed (readTicks settings subject now) := by
  apply (failsClosed_ask .lastModified (·.lastModified? subject)).bind (onlyReads_ask _)
  intro since?
  cases since? with
  | none => exact failsClosed_lift (.ok maxTicks)
  | some since =>
    exact (failsClosed_lift _).bind_lift fun now => .ok (ticksSince settings since now)

theorem failsClosed_applyTicks : FailsClosed (applyTicks settings subject ticks now) := by
  unfold applyTicks
  split
  · have hadd : FailsClosed (call (·.addCapped subject (Limiter.refill settings ticks)
        (Budget.ofSpan settings.capacity) now)) :=
      failsClosed_call .addCapped now fun now buckets => buckets.addCapped subject _ _ now
    exact hadd.bind_lift fun next => .ok next.1
  · exact failsClosed_ask .value (·.value subject)

theorem failsClosed_checkSubject (settings : LimiterSettings) (subject : String) (now : Instant) :
    FailsClosed (checkSubject settings subject now) := by
  apply failsClosed_readTicks.bind onlyReads_readTicks
  intro ticks
  exact failsClosed_applyTicks.bind_lift fun remaining => .ok (Verdict.ofRemaining remaining)

theorem failsClosed_checkToken (settings : LimiterSettings) (signer : Signer) (token : String)
    (now : Instant) : FailsClosed (checkToken settings signer token now) := by
  apply (failsClosed_lift _).bind (onlyReads_lift _)
  intro claims?
  cases claims? with
  | none => exact failsClosed_lift (.ok Verdict.tokenInvalid)
  | some claims =>
    apply (failsClosed_lift _).bind (onlyReads_lift _)
    intro expired
    cases expired with
    | true => exact failsClosed_lift (.ok Verdict.tokenExpired)
    | false => exact failsClosed_checkSubject settings token now

end Action

end Turnstile.Store
