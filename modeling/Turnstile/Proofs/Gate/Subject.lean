import Turnstile.Proofs.Gate.Quota

/-!
# What a decision leaves alone

A decision changes the bucket of one subject at most, and only for the better. That subject is one
that the request has shown: its own address under a policy by address, or an api token that the
gate's signer vouches for. A quota step that finds no such subject writes nothing at all.

## Main definitions

- `Gate.Entitles` — what a request shows of its subject
- `Gate.Spares` — what a decision leaves alone

## Main statements

- `Gate.Leaves.entitles`, `Gate.entitles_of_judge` — who gets a bucket, and who is admitted
- `Gate.spares_of_judge` — what happens to the store
-/

namespace Turnstile

theorem Limiter.exists_claims_of_checkToken {settings : LimiterSettings} {signer : Signer}
    {store left : Store} {token : String} {now : Instant}
    (h : checkToken settings signer store token now = .ok (.success, left)) :
    ∃ claims, QuotaClaims.parse signer token now = .ok (some claims) := by
  obtain ⟨claims?, hparse, h⟩ := exists_of_bind_eq_ok h
  cases claims? with
  | none => cases (Prod.mk.inj (Except.ok.inj h)).1
  | some claims => exact ⟨claims, hparse⟩

theorem Limiter.exists_claims_of_refusal {settings : LimiterSettings} {signer : Signer}
    {token : String} {now : Instant} (h : refusal settings signer token now = .ok none) :
    ∃ claims, QuotaClaims.parse signer token now = .ok (some claims) := by
  obtain ⟨claims?, hparse, h⟩ := exists_of_bind_eq_ok h
  cases claims? with
  | none => cases Except.ok.inj h
  | some claims => exact ⟨claims, hparse⟩

namespace Gate

/-- The subject that a request can have under a policy. -/
def subject? (policy : Policy) (req : GateRequest) : Option String :=
  if policy.byAddress then some req.remoteAddress
  else if policy.tokenFree then none
  else req.apiToken

/-- The failures of a quota step that has found no subject. -/
inductive NoSubject : Failure → Prop
  | secretNotSet : NoSubject .secretNotSet
  | tokenMissing : NoSubject .tokenMissing
  | tokenInvalid : NoSubject .tokenInvalid
  | tokenExpired : NoSubject .tokenExpired

/-- What a decision leaves alone: the whole store if no subject was found, and else all buckets but
the subject's, which has no less in it afterwards. -/
structure Spares (g : Gate) (policy : Policy) (req : GateRequest) (before : Store) (now : Instant)
    (decision : Except Failure Admission) (after : Store) : Prop where
  refused : ∀ e, NoSubject e → decision = .error e →
    (e = .secretNotSet → (g.checkQuota policy req before now).1 = .error .secretNotSet) →
    after = before
  others : ∀ key, subject? policy req ≠ some key →
    after.buckets.find? key = before.buckets.find? key
  value_le : ∀ key, before.buckets.value key ≤ after.buckets.value key

/-- A request shows that a text is its subject: its own address, or a token that the signer vouches
for. -/
inductive Entitles (g : Gate) (policy : Policy) (req : GateRequest) (now : Instant)
    (key : String) : Prop
  | byAddress (address : policy.byAddress = true) (own : req.remoteAddress = key)
  | byToken {signer : Signer} {claims : QuotaClaims} (needed : policy.NeedsToken)
      (sent : Presents req.apiToken key) (signed : g.signer = some signer)
      (verified : QuotaClaims.parse signer key now = .ok (some claims))

variable {g : Gate} {policy : Policy} {req : GateRequest} {store left : Store} {now : Instant}
  {key : String} {past : List Step} {s : Step}

/-! ### Decisions -/

theorem call?_cases {call : Limiter.Call} (h : g.call? policy req = some call) :
    (policy.byAddress = true ∧ call = .check req.remoteAddress) ∨
      ∃ signer token, policy.NeedsToken ∧ g.signer = some signer ∧ Presents req.apiToken token ∧
        call = .checkToken signer token := by
  unfold call? at h
  split at h
  · next address => exact Or.inl ⟨address, (Option.some.inj h).symm⟩
  split at h
  · cases h
  next address free =>
  split at h
  · next signer token hsigner hgiven =>
    refine Or.inr ⟨signer, token, ⟨by simpa using address, by simpa using free⟩, hsigner, ?_, ?_⟩
    · exact given_eq_some_iff.1 hgiven
    · exact (Option.some.inj h).symm
  · cases h

theorem subject?_of_needsToken (needed : policy.NeedsToken) :
    subject? policy req = req.apiToken := by
  rw [subject?, needed.1, needed.2]
  rfl

/-- The limiter is asked about the subject of the request, or not at all. -/
theorem subject?_of_call? (h : (g.call? policy req).bind Limiter.Call.subject? = some key) :
    subject? policy req = some key := by
  obtain ⟨call, hcall, hsubject⟩ := Option.bind_eq_some_iff.1 h
  rcases call?_cases hcall with ⟨address, rfl⟩ | ⟨signer, token, needed, -, sent, rfl⟩
  · obtain rfl := Option.some.inj hsubject
    exact if_pos address
  · obtain rfl := Option.some.inj hsubject
    rw [subject?_of_needsToken needed]
    exact sent.1

/-- Only a subject that the request shows gets a bucket. -/
theorem Leaves.entitles (h : g.Leaves policy req store now left) (sound : store.health = .sound)
    (hfound : left.buckets.find? key ≠ none) :
    store.buckets.find? key ≠ none ∨ g.Entitles policy req now key := by
  unfold Leaves at h
  split at h
  · rw [h] at hfound
    exact Or.inl hfound
  next call hcall =>
  obtain ⟨v, hperform⟩ := h
  rw [(Limiter.find?_of_perform sound hperform).2 key] at hfound
  rcases call?_cases hcall with ⟨address, rfl⟩ | ⟨signer, token, needed, signed, sent, rfl⟩
  · rw [Limiter.Call.onBucket] at hfound
    split at hfound
    · next hkey => exact Or.inr (.byAddress address hkey.symm)
    · exact Or.inl hfound
  · rw [Limiter.Call.onBucket] at hfound
    split at hfound
    · next hrefusal =>
      split at hfound
      · next hkey =>
        obtain ⟨claims, hparse⟩ := Limiter.exists_claims_of_refusal hrefusal
        subst hkey
        exact Or.inr (.byToken needed sent signed hparse)
      · exact Or.inl hfound
    · exact Or.inl hfound

theorem entitles_of_checkQuota (h : (g.checkQuota policy req store now).1 = .ok (some key)) :
    g.Entitles policy req now key := by
  unfold checkQuota at h
  split at h
  · next address =>
    rcases quotaDecision_cases (Prod.ext h rfl) with ⟨e, -, hresult⟩ | ⟨v, -, hresult⟩
    · cases hresult
    · exact .byAddress address (Option.some.inj (eq_some_of_subjectOf hresult.symm)).symm
  split at h
  · cases h
  next address free =>
  split at h
  · cases h
  · cases h
  · next signer token signed hgiven =>
    rcases quotaDecision_cases (Prod.ext h rfl) with ⟨e, -, hresult⟩ | ⟨v, hcheck, hresult⟩
    · cases hresult
    · obtain rfl := Option.some.inj (eq_some_of_subjectOf hresult.symm)
      cases v with
      | success =>
        obtain ⟨claims, hparse⟩ := Limiter.exists_claims_of_checkToken hcheck
        exact .byToken ⟨by simpa using address, by simpa using free⟩
          (given_eq_some_iff.1 hgiven) signed
          hparse
      | _ => cases hresult

theorem entitles_of_judge {admission : Admission}
    (h : (g.judge policy req store now).1 = .ok admission)
    (hsubject : admission.subject = some key) : g.Entitles policy req now key := by
  rw [fst_judge] at h
  obtain ⟨subject, hquota, h⟩ := exists_of_bind_eq_ok h
  obtain ⟨user, -, h⟩ := exists_of_bind_eq_ok h
  obtain rfl := Except.ok.inj h
  obtain rfl : subject = some key := hsubject
  exact entitles_of_checkQuota hquota

theorem snd_judge_of_halted (sound : store.health = .sound) (hnow : Instant.last < now) :
    (g.judge policy req store now).2 = store := by
  have hquota : (g.checkQuota policy req store now).2 = store := by
    unfold checkQuota
    split
    · rw [Limiter.checkSubject_of_halted sound hnow]
      rfl
    split
    · rfl
    split
    · rfl
    · rfl
    · rw [Limiter.checkToken_eq]
      rcases Limiter.refusal g.limiter _ _ now with e | _ | v
      · rfl
      · simp only [bind, Except.bind, Limiter.checkSubject_of_halted sound hnow]
        rfl
      · rfl
  unfold judge
  rcases hchecked : g.checkQuota policy req store now with ⟨_ | subject, checked⟩
  · rw [hchecked] at hquota
    exact hquota
  · rw [hchecked] at hquota
    dsimp only
    split
    · exact hquota
    · exact hquota

theorem ne_of_subjectOf_ofRemaining {subject : String} {remaining : Int} {e : Failure}
    (nobody : NoSubject e) : subjectOf subject (Verdict.ofRemaining remaining) ≠ .error e := by
  unfold Verdict.ofRemaining
  split
  · rintro ⟨⟩
    cases nobody
  · rintro ⟨⟩

/-- A quota step that finds no subject writes nothing. -/
theorem eq_of_checkQuota {e : Failure} (sound : store.health = .sound) (nobody : NoSubject e)
    (h : g.checkQuota policy req store now = (.error e, left)) : left = store := by
  -- a sound store fails only where the clock does
  have hruns : e ≠ .halted := by
    rintro rfl
    cases nobody
  unfold checkQuota at h
  split at h
  · rcases quotaDecision_cases h with ⟨e', hcheck, hresult⟩ | ⟨v, hcheck, hresult⟩
    · obtain rfl := Except.error.inj hresult
      exact absurd (Limiter.eq_halted_of_checkSubject sound hcheck) hruns
    · obtain ⟨rfl, -⟩ := Limiter.checkSubject_cases sound hcheck
      exact absurd hresult.symm (ne_of_subjectOf_ofRemaining nobody)
  split at h
  · cases (Prod.mk.inj h).1
  split at h
  · exact (Prod.mk.inj h).2.symm
  · exact (Prod.mk.inj h).2.symm
  · rcases quotaDecision_cases h with ⟨e', hcheck, hresult⟩ | ⟨v, hcheck, hresult⟩
    · obtain rfl := Except.error.inj hresult
      exact absurd (Limiter.eq_halted_of_checkToken sound hcheck) hruns
    · rw [Limiter.checkToken_eq] at hcheck
      obtain ⟨refused, -, hcheck⟩ := exists_of_bind_eq_ok hcheck
      cases refused with
      | some verdict => exact (Prod.mk.inj (Except.ok.inj hcheck)).2.symm
      | none =>
        obtain ⟨rfl, -⟩ := Limiter.checkSubject_cases sound hcheck
        exact absurd hresult.symm (ne_of_subjectOf_ofRemaining nobody)

/-- A decision that ends for want of a subject writes nothing. -/
theorem snd_judge_of_noSubject {e : Failure} (sound : store.health = .sound)
    (hnow : now ≤ Instant.last) (nobody : NoSubject e)
    (h : (g.judge policy req store now).1 = .error e)
    (unsigned : e = .secretNotSet → (g.checkQuota policy req store now).1 = .error .secretNotSet) :
    (g.judge policy req store now).2 = store := by
  rcases hquota : g.checkQuota policy req store now with ⟨e' | subject, checked⟩
  · have hjudge : g.judge policy req store now = (.error e', checked) := by
      rw [judge, hquota]
    rw [hjudge] at h ⊢
    obtain rfl := Except.error.inj h
    exact eq_of_checkQuota sound nobody hquota
  · -- the user step fails in ways of its own, but for a missing signer
    have hquota' : (g.checkQuota policy req store now).1 = .ok subject := congrArg Prod.fst hquota
    rw [fst_judge, hquota'] at h
    rcases eq_error_or_exists_of_bind_eq_error h with h | ⟨subject, -, h⟩
    · cases h
    rcases eq_error_or_exists_of_bind_eq_error h with huser | ⟨user, -, h⟩
    · cases (resolveUser_eq_iff hnow).1 huser with
      | unsigned needed hsigner =>
        rw [unsigned rfl] at hquota'
        cases hquota'
      | tokenMissing needed signed missing => cases nobody
      | tokenInvalid needed signed sent invalid => cases nobody
    · cases h

theorem spares_of_judge (policy : Policy) (req : GateRequest) (now : Instant)
    (before : store.health = .sound ∧ ∀ key, Limiter.Bounded g.limiter (store.buckets.find? key)) :
    g.Spares policy req store now (g.judge policy req store now).1
      (g.judge policy req store now).2 := by
  by_cases hnow : now ≤ Instant.last
  · have hleaves : g.Leaves policy req store now (g.judge policy req store now).2 :=
      leaves_of_judge before.1 rfl fun h => absurd (lt_of_judge h) (Int.not_lt.2 hnow)
    refine ⟨fun e nobody h unsigned => ?_, fun key hkey => ?_, fun key => ?_⟩
    · exact snd_judge_of_noSubject before.1 hnow nobody h unsigned
    · exact hleaves.find?_eq before.1 fun h => hkey (subject?_of_call? h)
    · exact hleaves.value_le before key
  · rw [snd_judge_of_halted before.1 (Int.not_le.1 hnow)]
    exact ⟨fun _ _ _ _ => rfl, fun _ _ => rfl, fun _ => Int.le_refl _⟩

end Gate

end Turnstile
