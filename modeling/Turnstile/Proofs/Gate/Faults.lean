import Turnstile.Gate.Keeper
import Turnstile.Proofs.Limiter.Faults

/-!
# The gate fails closed

What the limiter and the gate do to a store is made of its single operations, and every action keeps
what was written before a failure. So it can be told what is left when some of the operations are
out of order: either the same as in a sound store, or the store as it was. A request that would be
turned away is never let in by a fault.

## Main definitions

- `Gate.quotaAction`, `Gate.judgeAction`, `Gate.settleAction` — the gate in single operations
- `Store.Action.CarriesOut` — an action that does what a function says, and fails closed

## Main statements

- `Gate.judge_eq_action` — the gate is made of the operations of the store
- `Gate.faults_fail_closed` — faults of the store
-/

namespace Turnstile

/-- An action that does what a function says, and fails closed. -/
structure Store.Action.CarriesOut {α : Type} (p : Store.Action α)
    (f : Store → Except Failure α × Store) :
    Prop where
  eq : p = f
  failsClosed : p.FailsClosed

namespace Gate

open Store (Action)
open Store.Action (call lift)

/-- The quota step: the verdict is all that is used of a check. -/
def quotaAction (g : Gate) (policy : Policy) (req : GateRequest) (now : Instant) :
    Action (Option String) :=
  if policy.byAddress then do
    let verdict ← Action.checkSubject g.limiter req.remoteAddress now
    lift (subjectOf req.remoteAddress verdict)
  else if policy.tokenFree then return none
  else
    match g.signer, given req.apiToken with
    | none, _ => lift (.error .secretNotSet)
    | some _, none => lift (.error .tokenMissing)
    | some signer, some token => do
      let verdict ← Action.checkToken g.limiter signer token now
      lift (subjectOf token verdict)

/-- The two steps one after the other. The user step does not ask the store. -/
def judgeAction (g : Gate) (policy : Policy) (req : GateRequest) (now : Instant) :
    Action Admission := do
  let subject ← g.quotaAction policy req now
  let user ← lift (g.resolveUser policy req now)
  return ⟨subject, user⟩

def settleAction (admission : Admission) (elapsed : Span) (now : Instant) : Action Unit :=
  match admission.subject with
  | some subject => do
    let _ ← Action.useTime subject elapsed now
    return ()
  | none => return ()

variable {g : Gate} {policy : Policy} {req : GateRequest} {now : Instant}

/-! ### The gate in single operations -/

theorem quotaDecision_eq_action (subject : String)
    (check : Store → Except Failure (Verdict × Store)) :
    (fun store => quotaDecision subject store (check store)) =
      call check >>= fun verdict => lift (subjectOf subject verdict) := by
  funext store
  cases h : check store with
  | ok result =>
    rw [Action.bind_of_ok (Action.call_of_ok h)]
    rfl
  | error e =>
    rw [Action.bind_of_error (Action.call_of_error h)]
    rfl

theorem checkQuota_eq_action (g : Gate) (policy : Policy) (req : GateRequest) (now : Instant) :
    (fun store => g.checkQuota policy req store now) = g.quotaAction policy req now := by
  unfold checkQuota quotaAction
  by_cases haddress : policy.byAddress = true
  · simp only [if_pos haddress]
    rw [← Action.call_checkSubject]
    exact quotaDecision_eq_action req.remoteAddress _
  simp only [if_neg haddress]
  by_cases hfree : policy.tokenFree = true
  · simp only [if_pos hfree]
    rfl
  simp only [if_neg hfree]
  cases g.signer with
  | none => rfl
  | some signer =>
    cases given req.apiToken with
    | none => rfl
    | some token =>
      dsimp only
      rw [← Action.call_checkToken]
      exact quotaDecision_eq_action token _

theorem judge_eq_action (g : Gate) (policy : Policy) (req : GateRequest) (now : Instant) :
    (fun store => g.judge policy req store now) = g.judgeAction policy req now := by
  funext store
  have hquota : g.checkQuota policy req store now = g.quotaAction policy req now store :=
    congrFun (checkQuota_eq_action g policy req now) store
  unfold judge judgeAction
  rw [hquota]
  rcases h : g.quotaAction policy req now store with ⟨outcome, after⟩
  cases outcome with
  | ok subject =>
    rw [Action.bind_of_ok h]
    cases g.resolveUser policy req now <;> rfl
  | error e => rw [Action.bind_of_error h]

theorem settle_eq_action (admission : Admission) (elapsed : Span) (now : Instant) :
    call (fun store => (settle admission elapsed store now).map ((), ·)) =
      settleAction admission elapsed now := by
  unfold settle settleAction
  cases admission.subject with
  | none => rfl
  | some subject =>
    refine Eq.trans ?_ (Action.call_bind_pure (Limiter.useTime · subject elapsed now) fun _ => ())
    refine congrArg call (funext fun store => ?_)
    dsimp only
    cases Limiter.useTime store subject elapsed now <;> rfl

/-! ### Faults -/

theorem failsClosed_quotaAction : (g.quotaAction policy req now).FailsClosed := by
  unfold quotaAction
  split
  · exact (Action.failsClosed_checkSubject _ _ _).bind_lift _
  split
  · exact Action.failsClosed_lift (.ok none)
  split
  · exact Action.failsClosed_lift _
  · exact Action.failsClosed_lift _
  · exact (Action.failsClosed_checkToken _ _ _ _).bind_lift _

theorem failsClosed_judgeAction : (g.judgeAction policy req now).FailsClosed := by
  have huser : ∀ subject,
      (lift (g.resolveUser policy req now) >>= fun user => lift (.ok (Admission.mk subject user))) =
        lift (g.resolveUser policy req now >>= fun user => .ok (Admission.mk subject user)) :=
    fun subject => Action.lift_bind _ _
  have hjudge : g.judgeAction policy req now = g.quotaAction policy req now >>= fun subject =>
      lift (g.resolveUser policy req now >>= fun user => .ok (Admission.mk subject user)) :=
    congrArg (g.quotaAction policy req now >>= ·) (funext huser)
  rw [hjudge]
  exact failsClosed_quotaAction.bind_lift _

theorem failsClosed_settleAction (admission : Admission) (elapsed : Span) (now : Instant) :
    (settleAction admission elapsed now).FailsClosed := by
  unfold settleAction
  split
  · exact (Action.failsClosed_useTime _ _ now).bind_lift fun _ => .ok ()
  · exact Action.failsClosed_lift (.ok ())

theorem carriesOut_checkSubject (settings : LimiterSettings) (subject : String) (now : Instant) :
    (Action.checkSubject settings subject now).CarriesOut
      (call (Limiter.checkSubject settings · subject now)) where
  eq := (Action.call_checkSubject settings subject now).symm
  failsClosed := Action.failsClosed_checkSubject settings subject now

theorem carriesOut_checkToken (settings : LimiterSettings) (signer : Signer) (token : String)
    (now : Instant) :
    (Action.checkToken settings signer token now).CarriesOut
      (call (Limiter.checkToken settings signer · token now)) where
  eq := (Action.call_checkToken settings signer token now).symm
  failsClosed := Action.failsClosed_checkToken settings signer token now

theorem carriesOut_judge (g : Gate) (policy : Policy) (req : GateRequest) (now : Instant) :
    (g.judgeAction policy req now).CarriesOut fun store => g.judge policy req store now where
  eq := (judge_eq_action g policy req now).symm
  failsClosed := failsClosed_judgeAction

/-- A fault never turns a rejection into an admission: whoever is admitted would be admitted by a
sound store. -/
theorem judge_sound_of_flaky {faults : List Store.Operation} {buckets : Buckets}
    {admission : Admission}
    (h : (g.judge policy req ⟨.flaky faults, buckets⟩ now).1 = .ok admission) :
    (g.judge policy req ⟨.sound, buckets⟩ now).1 = .ok admission := by
  have hjudge : (g.judgeAction policy req now ⟨.flaky faults, buckets⟩).1 = .ok admission := by
    rw [← judge_eq_action]
    exact h
  rcases failsClosed_judgeAction faults buckets with hsame | hdown
  · rw [hsame, ← judge_eq_action] at hjudge
    exact hjudge
  · rw [hdown] at hjudge
    cases hjudge

/-- A sweep is a single operation of the store, and its failures are passed over. -/
theorem cleanup_flaky (faults : List Store.Operation) (buckets : Buckets) (staleAfter : Span)
    (now : Instant) :
    Limiter.cleanup ⟨.flaky faults, buckets⟩ staleAfter now =
      if .clean ∈ faults then .ok ⟨.flaky faults, buckets⟩
      else (Limiter.cleanup ⟨.sound, buckets⟩ staleAfter now).map fun swept =>
        ⟨.flaky faults, swept.buckets⟩ := by
  by_cases h : Store.Operation.clean ∈ faults
  · simp [Limiter.cleanup, Store.clean, Store.require, Store.Health.faults, h, bind, Except.bind]
  · simp only [if_neg h]
    cases hthreshold : Store.threshold staleAfter now with
    | ok threshold =>
      simp [Limiter.cleanup, Store.clean, Store.require, Store.Health.faults, h, hthreshold,
        bind, Except.bind, pure, Except.pure, Except.map]
    | error e =>
      cases e <;>
        simp [Limiter.cleanup, Store.clean, Store.require, Store.Health.faults, h, hthreshold, bind,
          Except.bind, Except.map]

/-- **Faults of the store.** Whichever operations are out of order, and whatever there is in the
buckets: checks of subjects and of tokens, charges, decisions and settlements either end as in a
sound store and leave the same buckets, or report that the store is down and leave it as it was.
That is so even though nothing that was written is taken back after a failure, as none of them can
fail once it has written. No fault lets in who would be turned away. A sweep that is out of order
leaves the store as it was, and faults of other operations do not concern it. -/
theorem faults_fail_closed (settings : LimiterSettings) (signer : Signer) (g : Gate)
    (policy : Policy) (req : GateRequest) (now : Instant) :
    (∀ subject, (Action.checkSubject settings subject now).CarriesOut
      (call (Limiter.checkSubject settings · subject now))) ∧
    (∀ token, (Action.checkToken settings signer token now).CarriesOut
      (call (Limiter.checkToken settings signer · token now))) ∧
    (∀ subject consumed, (Action.useTime subject consumed now).CarriesOut
      (call (Limiter.useTime · subject consumed now))) ∧
    ((g.judgeAction policy req now).CarriesOut fun store => g.judge policy req store now) ∧
    (∀ admission elapsed, (settleAction admission elapsed now).CarriesOut
      (call fun store => (settle admission elapsed store now).map ((), ·))) ∧
    ∀ faults buckets,
      (∀ admission, (g.judge policy req ⟨.flaky faults, buckets⟩ now).1 = .ok admission →
        (g.judge policy req ⟨.sound, buckets⟩ now).1 = .ok admission) ∧
      ∀ staleAfter, Limiter.cleanup ⟨.flaky faults, buckets⟩ staleAfter now =
        if .clean ∈ faults then .ok ⟨.flaky faults, buckets⟩
        else (Limiter.cleanup ⟨.sound, buckets⟩ staleAfter now).map fun swept =>
          ⟨.flaky faults, swept.buckets⟩ := by
  refine ⟨fun subject => carriesOut_checkSubject settings subject now,
    fun token => carriesOut_checkToken settings signer token now,
    fun subject consumed => ⟨rfl, Action.failsClosed_useTime subject consumed now⟩,
    carriesOut_judge g policy req now, fun admission elapsed => ?_, fun faults buckets => ⟨?_, ?_⟩⟩
  · exact ⟨(settle_eq_action admission elapsed now).symm,
      failsClosed_settleAction admission elapsed now⟩
  · intro admission h
    exact judge_sound_of_flaky h
  · intro staleAfter
    exact cleanup_flaky faults buckets staleAfter now

/-- A gate that limits by address, with a tick of ten nanoseconds. -/
def doorman : Gate :=
  { signer := none, limiter := { capacity := 100, interval := 10, perInterval := 10 },
    policies := .empty }

/-- A store in which no bucket can be refilled or swept, and a caller that has a bucket there. -/
def halfDown : Store :=
  ⟨.flaky [.addCapped, .clean], Buckets.empty.set "10.0.0.1" ⟨5, 0⟩⟩

/-- As long as no tick is due, the caller is let in as in a sound store. Then the store is reported
to be down. -/
theorem halfDown_fails_closed :
    (doorman.judge .limitedByAddress ⟨"GET", "10.0.0.1", none, none⟩
      ⟨.sound, halfDown.buckets⟩ 9).1 =
        .ok ⟨some "10.0.0.1", none⟩ ∧
      doorman.judge .limitedByAddress ⟨"GET", "10.0.0.1", none, none⟩ halfDown 10 =
        (.error (.storage .down), halfDown) ∧
      Limiter.cleanup halfDown 1 10 = .ok halfDown := by
  refine ⟨?_, rfl, ?_⟩
  · obtain ⟨-, -, -, -, -, hfaults⟩ :=
      faults_fail_closed doorman.limiter (Signer.ofText "secret") doorman .limitedByAddress
        ⟨"GET", "10.0.0.1", none, none⟩ 9
    exact (hfaults [.addCapped, .clean] halfDown.buckets).1 ⟨some "10.0.0.1", none⟩ rfl
  · obtain ⟨-, -, -, -, -, hfaults⟩ :=
      faults_fail_closed doorman.limiter (Signer.ofText "secret") doorman .limitedByAddress
        ⟨"GET", "10.0.0.1", none, none⟩ 10
    exact ((hfaults [.addCapped, .clean] halfDown.buckets).2 1).trans (if_pos (by decide))

end Gate

end Turnstile
