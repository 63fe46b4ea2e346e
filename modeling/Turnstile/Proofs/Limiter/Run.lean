import Turnstile.Proofs.Limiter.Check

/-!
# Runs of the limiter

A run is a sequence of calls on a store, each at the instant that the clock shows then. What a run
does to a subject can be told from the bucket of that subject alone.

## Main definitions

- `Limiter.Call`, `Limiter.Event` — what the limiter can be asked for, and when
- `Limiter.Step`, `Limiter.run` — one call of a run with the stores around it, and whole runs
- `Limiter.lastStore` — the store that a run leaves
- `Limiter.Call.onBucket` — what a call does to the bucket of one subject

## Main statements

- `Limiter.find?_of_perform` — a call does to every bucket what `onBucket` says
- `Limiter.run_cons_eq_ok`, `Limiter.exists_of_run_append` — runs are taken apart call by call
- `Limiter.perform_of_mem_run` — every step of a run is a call on a store that keeps the invariant
-/

namespace Turnstile.Limiter

/-- What the limiter can be asked for. -/
inductive Call where
  | check (subject : String)
  | checkToken (signer : Signer) (token : String)
  | charge (subject : String) (consumed : Span)
  | sweep (staleAfter : Span)
deriving DecidableEq

/-- What a call answers: a verdict, what is left in a bucket, or nothing. -/
inductive Outcome where
  | verdict (v : Verdict)
  | left (value : Int)
  | swept
deriving DecidableEq, Repr

/-- Answers a call. -/
def Call.perform (settings : LimiterSettings) (store : Store) (now : Instant) :
    Call → Except Failure (Outcome × Store)
  | .check subject => do
    let (v, store) ← checkSubject settings store subject now
    return (.verdict v, store)
  | .checkToken signer token => do
    let (v, store) ← Limiter.checkToken settings signer store token now
    return (.verdict v, store)
  | .charge subject consumed => do
    let (left, store) ← useTime store subject consumed now
    return (.left left, store)
  | .sweep staleAfter => do
    return (.swept, ← cleanup store staleAfter now)

/-- Whether a call is a sweep. -/
def Call.isSweep : Call → Bool
  | .sweep _ => true
  | _ => false

/-- A call and the instant at which it is made. -/
structure Event where
  now : Instant
  call : Call
deriving DecidableEq

/-- A call of a run, with the stores before and after it and its answer. -/
structure Step extends Event where
  before : Store
  outcome : Outcome
  after : Store

/-- Makes calls one after the other. -/
def run (settings : LimiterSettings) : Store → List Event → Except Failure (List Step)
  | _, [] => .ok []
  | store, e :: rest => do
    let (outcome, after) ← e.call.perform settings store e.now
    return ⟨e, store, outcome, after⟩ :: (← run settings after rest)

/-- What a call does to the bucket of a subject. -/
def Call.onBucket (settings : LimiterSettings) (subject : String) (now : Instant)
    (bucket : Option Bucket) : Call → Option Bucket
  | .check other => if subject = other then some (refilled settings bucket now) else bucket
  | .checkToken signer token =>
    match refusal settings signer token now with
    | .ok none => if subject = token then some (refilled settings bucket now) else bucket
    | _ => bucket
  | .charge other consumed => if subject = other then some (charged bucket consumed now) else bucket
  | .sweep staleAfter => surviving staleAfter now bucket

variable {settings : LimiterSettings} {store after : Store} {now : Instant} {outcome : Outcome}

/-! ### Single calls -/

theorem checkSubject_cases (sound : store.health = .sound) {subject : String} {v : Verdict}
    (h : checkSubject settings store subject now = .ok (v, after)) :
    v = Verdict.ofRemaining (refilled settings (store.buckets.find? subject) now).value ∧
      after = { store with
        buckets := store.buckets.set subject
          (refilled settings (store.buckets.find? subject) now) } := by
  by_cases hnow : now ≤ Instant.last
  · rw [checkSubject_of_sound sound hnow] at h
    obtain ⟨rfl, rfl⟩ := Prod.mk.inj (Except.ok.inj h)
    exact ⟨rfl, rfl⟩
  · rw [checkSubject_of_halted sound (Int.not_le.1 hnow)] at h
    cases h

theorem useTime_cases (sound : store.health = .sound) {subject : String} {consumed : Span}
    {left : Int} (h : useTime store subject consumed now = .ok (left, after)) :
    left = (charged (store.buckets.find? subject) consumed now).value ∧
      after = { store with
        buckets := store.buckets.set subject
          (charged (store.buckets.find? subject) consumed now) } := by
  by_cases hnow : now ≤ Instant.last
  · rw [useTime_of_sound sound hnow] at h
    obtain ⟨rfl, rfl⟩ := Prod.mk.inj (Except.ok.inj h)
    exact ⟨rfl, rfl⟩
  · rw [useTime_of_halted sound (Int.not_le.1 hnow)] at h
    cases h

/-- A call in a sound store does to every bucket what `onBucket` says, and leaves the store
sound. -/
theorem find?_of_perform (sound : store.health = .sound) {call : Call}
    (h : call.perform settings store now = .ok (outcome, after)) :
    after.health = .sound ∧ ∀ subject,
      after.buckets.find? subject =
        call.onBucket settings subject now (store.buckets.find? subject) := by
  cases call with
  | check other =>
    obtain ⟨⟨v, left⟩, hcheck, hend⟩ := exists_of_bind_eq_ok h
    obtain ⟨rfl, rfl⟩ := Prod.mk.inj (Except.ok.inj hend)
    obtain ⟨-, rfl⟩ := checkSubject_cases sound hcheck
    exact ⟨sound, fun subject =>
      Buckets.find?_set_map _ _ _ fun bucket => refilled settings bucket now⟩
  | checkToken signer token =>
    obtain ⟨⟨v, left⟩, hcheck, hend⟩ := exists_of_bind_eq_ok h
    obtain ⟨rfl, rfl⟩ := Prod.mk.inj (Except.ok.inj hend)
    rw [checkToken_eq] at hcheck
    obtain ⟨refused, hrefusal, hcheck⟩ := exists_of_bind_eq_ok hcheck
    cases refused with
    | some verdict =>
      -- a token that is refused writes no bucket
      obtain ⟨rfl, rfl⟩ := Prod.mk.inj (Except.ok.inj hcheck)
      exact ⟨sound, fun subject => by rw [Call.onBucket, hrefusal]⟩
    | none =>
      obtain ⟨-, rfl⟩ := checkSubject_cases sound hcheck
      refine ⟨sound, fun subject => ?_⟩
      rw [Call.onBucket, hrefusal]
      exact Buckets.find?_set_map _ _ _ fun bucket => refilled settings bucket now
  | charge other consumed =>
    obtain ⟨⟨v, left⟩, hcharge, hend⟩ := exists_of_bind_eq_ok h
    obtain ⟨rfl, rfl⟩ := Prod.mk.inj (Except.ok.inj hend)
    obtain ⟨-, rfl⟩ := useTime_cases sound hcharge
    exact ⟨sound, fun subject =>
      Buckets.find?_set_map _ _ _ fun bucket => charged bucket consumed now⟩
  | sweep staleAfter =>
    obtain ⟨swept, hsweep, hend⟩ := exists_of_bind_eq_ok h
    obtain ⟨rfl, rfl⟩ := Prod.mk.inj (Except.ok.inj hend)
    exact find?_of_cleanup sound hsweep

theorem outcome_of_perform_check (sound : store.health = .sound) {subject : String}
    (h : (Call.check subject).perform settings store now = .ok (outcome, after)) :
    outcome = .verdict
      (Verdict.ofRemaining (refilled settings (store.buckets.find? subject) now).value) := by
  obtain ⟨⟨v, left⟩, hcheck, hend⟩ := exists_of_bind_eq_ok h
  obtain ⟨rfl, rfl⟩ := Prod.mk.inj (Except.ok.inj hend)
  rw [(checkSubject_cases sound hcheck).1]

/-! ### Runs -/

/-- A run begins with its first call and goes on from the store that this leaves. -/
theorem run_cons_eq_ok {e : Event} {rest : List Event} {steps : List Step}
    (h : run settings store (e :: rest) = .ok steps) :
    ∃ outcome after steps', e.call.perform settings store e.now = .ok (outcome, after) ∧
      run settings after rest = .ok steps' ∧ steps = ⟨e, store, outcome, after⟩ :: steps' := by
  obtain ⟨⟨outcome, after⟩, hperform, h⟩ := exists_of_bind_eq_ok h
  obtain ⟨steps', hrest, hend⟩ := exists_of_bind_eq_ok h
  exact ⟨outcome, after, steps', hperform, hrest, (Except.ok.inj hend).symm⟩

theorem run_cons_of_perform {e : Event} {rest : List Event} {steps : List Step}
    (hperform : e.call.perform settings store e.now = .ok (outcome, after))
    (hrest : run settings after rest = .ok steps) :
    run settings store (e :: rest) = .ok (⟨e, store, outcome, after⟩ :: steps) := by
  rw [run, hperform]
  simp only [bind, Except.bind, hrest]
  rfl

/-- The store that a run leaves. -/
def lastStore (store : Store) : List Step → Store
  | [] => store
  | s :: rest => lastStore s.after rest

/-- Two runs, one from the store that the other leaves, are one run. -/
theorem run_append {events later : List Event} {steps steps' : List Step}
    (h : run settings store events = .ok steps)
    (hlater : run settings (lastStore store steps) later = .ok steps') :
    run settings store (events ++ later) = .ok (steps ++ steps') ∧
      lastStore store (steps ++ steps') = lastStore (lastStore store steps) steps' := by
  induction events generalizing store steps with
  | nil =>
    obtain rfl := Except.ok.inj h
    exact ⟨hlater, rfl⟩
  | cons e rest ih =>
    obtain ⟨outcome, after, steps, hperform, hrest, rfl⟩ := run_cons_eq_ok h
    obtain ⟨hrun, hlast⟩ := ih hrest hlater
    refine ⟨?_, hlast⟩
    exact run_cons_of_perform hperform hrun

theorem map_toEvent_of_run {events : List Event} {steps : List Step}
    (h : run settings store events = .ok steps) : steps.map Step.toEvent = events := by
  induction events generalizing store steps with
  | nil =>
    obtain rfl := Except.ok.inj h
    rfl
  | cons e rest ih =>
    obtain ⟨outcome, after, steps', -, hrest, rfl⟩ := run_cons_eq_ok h
    rw [List.map_cons, ih hrest]

/-- What single calls keep holds wherever a run is cut. -/
theorem exists_of_run_append (Inv : Store → Prop)
    (keeps : ∀ {store after : Store} {now : Instant} {call : Call} {outcome : Outcome}, Inv store →
      call.perform settings store now = .ok (outcome, after) → Inv after)
    {events : List Event} {front back : List Step} (start : Inv store)
    (h : run settings store events = .ok (front ++ back)) :
    ∃ mid, Inv mid ∧ run settings mid (back.map Step.toEvent) = .ok back := by
  -- on the steps before the cut, with the store that the invariant holds of
  induction front generalizing store events with
  | nil =>
    refine ⟨store, start, ?_⟩
    rw [← List.nil_append back, map_toEvent_of_run h]
    exact h
  | cons s front ih =>
    cases events with
    | nil => cases h
    | cons e rest =>
      obtain ⟨outcome, after, steps, hperform, hrest, hsteps⟩ := run_cons_eq_ok h
      obtain ⟨-, rfl⟩ := List.cons.inj hsteps
      exact ih (keeps start hperform) hrest

/-- Every step of a run is a call that was answered by a store of which what single calls keep
holds. -/
theorem perform_of_mem_run (Inv : Store → Prop)
    (keeps : ∀ {store after : Store} {now : Instant} {call : Call} {outcome : Outcome}, Inv store →
      call.perform settings store now = .ok (outcome, after) → Inv after)
    {events : List Event} {steps : List Step} {s : Step} (start : Inv store)
    (h : run settings store events = .ok steps) (hs : s ∈ steps) :
    Inv s.before ∧ s.call.perform settings s.before s.now = .ok (s.outcome, s.after) := by
  obtain ⟨front, back, rfl⟩ := List.append_of_mem hs
  obtain ⟨mid, hmid, hback⟩ := exists_of_run_append Inv keeps start h
  obtain ⟨outcome, after, steps, hperform, -, hsteps⟩ := run_cons_eq_ok hback
  obtain ⟨hstep, -⟩ := List.cons.inj hsteps
  rw [hstep]
  exact ⟨hmid, hperform⟩

/-- What single calls keep holds of the store that a run leaves. -/
theorem lastStore_of_run (Inv : Store → Prop)
    (keeps : ∀ {store after : Store} {now : Instant} {call : Call} {outcome : Outcome}, Inv store →
      call.perform settings store now = .ok (outcome, after) → Inv after)
    {events : List Event} {steps : List Step} (start : Inv store)
    (h : run settings store events = .ok steps) : Inv (lastStore store steps) := by
  induction events generalizing store steps with
  | nil =>
    obtain rfl := Except.ok.inj h
    exact start
  | cons e rest ih =>
    obtain ⟨outcome, after, steps', hperform, hrest, rfl⟩ := run_cons_eq_ok h
    change Inv (lastStore after steps')
    exact ih (keeps start hperform) hrest

end Turnstile.Limiter
