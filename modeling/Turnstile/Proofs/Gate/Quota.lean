import Turnstile.Proofs.Gate.Decision
import Turnstile.Proofs.Limiter.Subject

/-!
# What the gate asks of the limiter

To decide about a request the gate asks the limiter once, or not at all: about the address, about
the api token, or about nothing. Whom it admits to the bucket's account is the subject of that call,
and the store it leaves is the one that the call leaves, whatever is decided.

## Main definitions

- `Gate.call?` — what the limiter is asked for
- `Gate.Leaves` — the store that this leaves

## Main statements

- `Gate.leaves_of_judge` — the store after a decision
- `Gate.subject_of_judge` — the subject of an admission
-/

namespace Turnstile.Gate

/-- What the gate asks the limiter for about a request, if it gets so far. -/
def call? (g : Gate) (policy : Policy) (req : GateRequest) : Option Limiter.Call :=
  if policy.byAddress then some (.check req.remoteAddress)
  else if policy.tokenFree then none
  else
    match g.signer, given req.apiToken with
    | some signer, some token => some (.checkToken signer token)
    | _, _ => none

/-- The store is the one that is left when the limiter was asked. -/
def Leaves (g : Gate) (policy : Policy) (req : GateRequest) (store : Store) (now : Instant)
    (left : Store) : Prop :=
  match g.call? policy req with
  | none => left = store
  | some call => ∃ v, call.perform g.limiter store now = .ok (.verdict v, left)

variable {g : Gate} {policy : Policy} {req : GateRequest} {store left : Store} {now : Instant}
  {call : Limiter.Call}

theorem call?_byAddress (address : policy.byAddress = true) :
    g.call? policy req = some (.check req.remoteAddress) :=
  if_pos address

theorem call?_tokenFree (address : policy.byAddress = false) (free : policy.tokenFree = true) :
    g.call? policy req = none := by
  rw [call?, address, free]
  rfl

theorem call?_token (needed : policy.NeedsToken) :
    g.call? policy req =
      match g.signer, given req.apiToken with
      | some signer, some token => some (.checkToken signer token)
      | _, _ => none := by
  rw [call?, needed.1, needed.2]
  rfl

/-- The gate asks for checks only. -/
theorem check_of_call? (h : g.call? policy req = some call) :
    (∃ key, call = .check key) ∨ ∃ signer token, call = .checkToken signer token := by
  unfold call? at h
  split at h
  · exact Or.inl ⟨_, (Option.some.inj h).symm⟩
  split at h
  · cases h
  split at h
  · exact Or.inr ⟨_, _, (Option.some.inj h).symm⟩
  · cases h

theorem quotaDecision_cases {subject : String} {checked : Except Failure (Verdict × Store)}
    {result : Except Failure (Option String)}
    (h : quotaDecision subject store checked = (result, left)) :
    (∃ e, checked = .error e ∧ result = .error e) ∨
      ∃ v, checked = .ok (v, left) ∧ result = subjectOf subject v := by
  cases checked with
  | error e =>
    obtain ⟨rfl, -⟩ := Prod.mk.inj h
    exact Or.inl ⟨e, rfl, rfl⟩
  | ok checked =>
    obtain ⟨v, checked⟩ := checked
    obtain ⟨rfl, rfl⟩ := Prod.mk.inj h
    exact Or.inr ⟨v, rfl, rfl⟩

theorem eq_some_of_subjectOf {subject : String} {v : Verdict} {admitted : Option String}
    (h : subjectOf subject v = .ok admitted) : admitted = some subject := by
  cases v <;> cases h
  rfl

/-- The quota step leaves the store that the limiter leaves. -/
theorem leaves_of_checkQuota (sound : store.health = .sound)
    {result : Except Failure (Option String)}
    (h : g.checkQuota policy req store now = (result, left)) (runs : result ≠ .error .halted) :
    g.Leaves policy req store now left := by
  unfold checkQuota at h
  unfold Leaves
  split at h
  · next address =>
    rw [call?_byAddress address]
    rcases quotaDecision_cases h with ⟨e, hcheck, hresult⟩ | ⟨v, hcheck, -⟩
    -- a sound store fails only of the clock
    · rw [Limiter.eq_halted_of_checkSubject sound hcheck] at hresult
      exact absurd hresult runs
    · refine ⟨v, ?_⟩
      rw [Limiter.Call.perform, hcheck]
      rfl
  split at h
  · next address free =>
    rw [call?_tokenFree (by simpa using address) free]
    exact (Prod.mk.inj h).2.symm
  · next address free =>
    rw [call?_token ⟨by simpa using address, by simpa using free⟩]
    split at h
    · next hsigner =>
      rw [hsigner]
      exact (Prod.mk.inj h).2.symm
    · next hsigner hgiven =>
      rw [hsigner, hgiven]
      exact (Prod.mk.inj h).2.symm
    · next signer token hsigner hgiven =>
      rw [hsigner, hgiven]
      rcases quotaDecision_cases h with ⟨e, hcheck, hresult⟩ | ⟨v, hcheck, -⟩
      · rw [Limiter.eq_halted_of_checkToken sound hcheck] at hresult
        exact absurd hresult runs
      · refine ⟨v, ?_⟩
        rw [Limiter.Call.perform, hcheck]
        rfl

/-- Whoever passes the quota step is the subject that the limiter was asked about. -/
theorem subject_of_checkQuota {subject : Option String}
    (h : g.checkQuota policy req store now = (.ok subject, left)) :
    subject = (g.call? policy req).bind Limiter.Call.subject? := by
  unfold checkQuota at h
  split at h
  · next address =>
    rw [call?_byAddress address]
    rcases quotaDecision_cases h with ⟨e, -, hresult⟩ | ⟨v, -, hresult⟩
    · cases hresult
    · exact eq_some_of_subjectOf hresult.symm
  split at h
  · next address free =>
    rw [call?_tokenFree (by simpa using address) free]
    exact (Except.ok.inj (Prod.mk.inj h).1).symm
  · next address free =>
    rw [call?_token ⟨by simpa using address, by simpa using free⟩]
    split at h
    · cases (Prod.mk.inj h).1
    · cases (Prod.mk.inj h).1
    · next signer token hsigner hgiven =>
      rw [hsigner, hgiven]
      rcases quotaDecision_cases h with ⟨e, -, hresult⟩ | ⟨v, -, hresult⟩
      · cases hresult
      · exact eq_some_of_subjectOf hresult.symm

/-- Deciding leaves the store that the limiter leaves. -/
theorem leaves_of_judge (sound : store.health = .sound) {decision : Except Failure Admission}
    (h : g.judge policy req store now = (decision, left)) (runs : decision ≠ .error .halted) :
    g.Leaves policy req store now left := by
  unfold judge at h
  rcases hquota : g.checkQuota policy req store now with ⟨_ | subject, checked⟩
  · rw [hquota] at h
    obtain ⟨rfl, rfl⟩ := Prod.mk.inj h
    refine leaves_of_checkQuota sound hquota ?_
    rintro ⟨⟩
    exact runs rfl
  · rw [hquota] at h
    have hleft : checked = left := by
      dsimp only at h
      split at h
      · exact (Prod.mk.inj h).2
      · exact (Prod.mk.inj h).2
    rw [← hleft]
    exact leaves_of_checkQuota sound hquota fun hresult => by cases hresult

/-- An admission is for the subject that the limiter was asked about. -/
theorem subject_of_judge {admission : Admission}
    (h : (g.judge policy req store now).1 = .ok admission) :
    admission.subject = (g.call? policy req).bind Limiter.Call.subject? := by
  rw [fst_judge] at h
  obtain ⟨subject, hquota, h⟩ := exists_of_bind_eq_ok h
  obtain ⟨user, -, h⟩ := exists_of_bind_eq_ok h
  obtain rfl := Except.ok.inj h
  exact subject_of_checkQuota (Prod.ext hquota rfl)

/-- On a clock that can be read, the gate decides. -/
theorem lt_of_judge (h : (g.judge policy req store now).1 = .error .halted) :
    Instant.last < now := by
  refine Int.not_le.1 fun hnow => ?_
  obtain ⟨decision, hrule⟩ := exists_decisionRule g policy req store now
  obtain rfl := (judge_of_rule hnow hrule).symm.trans h
  have hquota : ¬QuotaRule g policy req store now (.error .halted) := by
    intro hquota
    cases hquota with
    | byAddress address bucket => cases bucket
    | byToken needed signed sent held young bucket => cases bucket
  cases hrule with
  | quotaFailed quota => exact hquota quota
  | userFailed quota identity => cases identity

/-! ### What is left of the buckets -/

/-- Whatever is decided, buckets stay within their bounds, and the store sound. -/
theorem Leaves.bounded (h : g.Leaves policy req store now left)
    (before : store.health = .sound ∧ ∀ key, Limiter.Bounded g.limiter (store.buckets.find? key)) :
    left.health = .sound ∧ ∀ key, Limiter.Bounded g.limiter (left.buckets.find? key) := by
  unfold Leaves at h
  split at h
  · rw [h]
    exact before
  · obtain ⟨v, hperform⟩ := h
    exact Limiter.bounded_of_perform before hperform

/-- Whatever is decided, no bucket has less in it. -/
theorem Leaves.value_le (h : g.Leaves policy req store now left)
    (before : store.health = .sound ∧ ∀ key, Limiter.Bounded g.limiter (store.buckets.find? key))
    (key : String) : store.buckets.value key ≤ left.buckets.value key := by
  unfold Leaves at h
  split at h
  · rw [h]
  · next call hcall =>
    obtain ⟨v, hperform⟩ := h
    rw [Buckets.value, Buckets.value, (Limiter.find?_of_perform before.1 hperform).2 key]
    exact Limiter.value_le_value_onBucket (before.2 key) (check_of_call? hcall)

/-- Whatever is decided, no bucket changes but that of the subject that the limiter was asked
about. -/
theorem Leaves.find?_eq (h : g.Leaves policy req store now left) (sound : store.health = .sound)
    {key : String} (hkey : (g.call? policy req).bind Limiter.Call.subject? ≠ some key) :
    left.buckets.find? key = store.buckets.find? key := by
  unfold Leaves at h
  split at h
  · rw [h]
  · next call hcall =>
    obtain ⟨v, hperform⟩ := h
    rw [(Limiter.find?_of_perform sound hperform).2 key]
    refine Limiter.onBucket_of_not_concerns ?_ _
    rw [hcall, Option.bind_some] at hkey
    obtain ⟨other, rfl⟩ | ⟨signer, token, rfl⟩ := check_of_call? hcall
    · have hne : other ≠ key := fun heq => hkey (by rw [heq]; rfl)
      simpa [Limiter.Call.concerns, Limiter.Call.subject?] using hne
    · have hne : token ≠ key := fun heq => hkey (by rw [heq]; rfl)
      simpa [Limiter.Call.concerns, Limiter.Call.subject?] using hne

/-- Where the limiter is asked about nobody, nothing is done to the store. -/
theorem Leaves.eq_of_none (h : g.Leaves policy req store now left)
    (hnobody : (g.call? policy req).bind Limiter.Call.subject? = none) : left = store := by
  unfold Leaves at h
  split at h
  · exact h
  · next call hcall =>
    rw [hcall, Option.bind_some] at hnobody
    obtain ⟨other, rfl⟩ | ⟨signer, token, rfl⟩ := check_of_call? hcall
    · cases hnobody
    · cases hnobody

/-- What was asked of the limiter is a run of it in which nobody is charged. -/
theorem Leaves.exists_run (h : g.Leaves policy req store now left) :
    ∃ steps, Limiter.run g.limiter store ((g.call? policy req).map (⟨now, ·⟩)).toList = .ok steps ∧
      Limiter.lastStore store steps = left ∧ ∀ subject, Limiter.spent subject steps = 0 := by
  unfold Leaves at h
  split at h
  · next hcall =>
    rw [hcall, h]
    exact ⟨[], rfl, rfl, fun subject => rfl⟩
  · next call hcall =>
    obtain ⟨v, hperform⟩ := h
    rw [hcall]
    refine ⟨_, Limiter.run_cons_of_perform hperform rfl, rfl, fun subject => ?_⟩
    obtain ⟨key, rfl⟩ | ⟨signer, token, rfl⟩ := check_of_call? hcall
    · rfl
    · rfl

end Turnstile.Gate
