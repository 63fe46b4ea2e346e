import Turnstile.Gate.Keeper
import Turnstile.Proofs.Limiter.Check
import Turnstile.Proofs.Token.Claims

/-!
# The rules of the gate

What the gate decides is laid down in rules: one for each way in which the quota step and the user
step can end. The gate follows them, and they leave nothing open: to every request just one decision
can be derived, and that is the gate's.

## Main definitions

- `Gate.QuotaRule` — how the quota step ends, and with whom as the subject
- `Gate.UserRule` — how the user step ends, and with whom as the user
- `Gate.DecisionRule` — what follows for a request: the first step that fails decides

## Main statements

- `Gate.checkQuota_eq_iff`, `Gate.resolveUser_eq_iff` — the two steps follow their rules
- `Gate.judge_eq_iff_rule` — the gate follows the rules, the users that it admits are shown by a
  token, and a token that shows nobody is as good as none where none is needed
-/

namespace Turnstile

/-- A policy under which an api token is looked at. -/
def Policy.NeedsToken (p : Policy) : Prop :=
  p.byAddress = false ∧ p.tokenFree = false

/-- A policy under which requests with a method have to name a user: every method, or the one whose
name it is in some case of letters. -/
def Policy.NeedsUser (p : Policy) (method : String) : Prop :=
  p.userFor.has .always = true ∨
    ∃ m : AuthMethod, m ≠ .always ∧ m.name = String.ofList (method.toList.map Char.toUpper) ∧
      p.userFor.has m = true

namespace Gate

/-- A text that was sent, and is not empty. -/
def Presents (sent : Option String) (text : String) : Prop :=
  sent = some text ∧ text ≠ ""

/-- What is left for a subject after the refill that a check brings about. -/
def budgetOf (g : Gate) (store : Store) (subject : String) (now : Instant) : Int :=
  (Limiter.refilled g.limiter (store.buckets.find? subject) now).value

/-- How the check of a subject's bucket ends: with the subject while it has budget left, with a
limit when it has none, or with the store, if that is out of order. -/
inductive BudgetRule (g : Gate) (store : Store) (now : Instant) (subject : String) :
    Except Failure (Option String) → Prop
  | admitted (answers : Limiter.Answers g.limiter store subject now)
      (budget : 0 < g.budgetOf store subject now) :
      BudgetRule g store now subject (.ok (some subject))
  | limited (answers : Limiter.Answers g.limiter store subject now)
      (spent : g.budgetOf store subject now ≤ 0) :
      BudgetRule g store now subject (.error .rateLimited)
  | storeDown (down : ¬Limiter.Answers g.limiter store subject now) :
      BudgetRule g store now subject (.error (.storage .down))

/-- How the quota step ends: with a subject, without one, or with a failure. -/
inductive QuotaRule (g : Gate) (policy : Policy) (req : GateRequest) (store : Store)
    (now : Instant) : Except Failure (Option String) → Prop
  | byAddress {result : Except Failure (Option String)} (address : policy.byAddress = true)
      (bucket : g.BudgetRule store now req.remoteAddress result) :
      QuotaRule g policy req store now result
  | tokenFree (address : policy.byAddress = false) (free : policy.tokenFree = true) :
      QuotaRule g policy req store now (.ok none)
  | unsigned (needed : policy.NeedsToken) (unsigned : g.signer = none) :
      QuotaRule g policy req store now (.error .secretNotSet)
  | tokenMissing {signer : Signer} (needed : policy.NeedsToken) (signed : g.signer = some signer)
      (missing : ∀ token, ¬Presents req.apiToken token) :
      QuotaRule g policy req store now (.error .tokenMissing)
  | tokenInvalid {signer : Signer} {token : String} (needed : policy.NeedsToken)
      (signed : g.signer = some signer) (sent : Presents req.apiToken token)
      (invalid : ∀ claims, ¬QuotaClaims.Held signer token now claims) :
      QuotaRule g policy req store now (.error .tokenInvalid)
  | tokenExpired {signer : Signer} {token : String} {claims : QuotaClaims} {timeout : Span}
      (needed : policy.NeedsToken) (signed : g.signer = some signer)
      (sent : Presents req.apiToken token) (held : QuotaClaims.Held signer token now claims)
      (limit : g.limiter.tokenTimeout = some timeout) (expired : timeout < claims.age now) :
      QuotaRule g policy req store now (.error .tokenExpired)
  | byToken {signer : Signer} {token : String} {claims : QuotaClaims}
      {result : Except Failure (Option String)} (needed : policy.NeedsToken)
      (signed : g.signer = some signer) (sent : Presents req.apiToken token)
      (held : QuotaClaims.Held signer token now claims)
      (young : ∀ timeout, g.limiter.tokenTimeout = some timeout → claims.age now ≤ timeout)
      (bucket : g.BudgetRule store now token result) :
      QuotaRule g policy req store now result

/-- The request shows a user token of the gate's that names a user. -/
def ShowsUser (g : Gate) (req : GateRequest) (now : Instant) (user : String) : Prop :=
  ∃ signer token, g.signer = some signer ∧ Presents req.userToken token ∧
    UserClaims.Names signer token now user

/-- How the user step ends: with a user, without one, or with a failure. -/
inductive UserRule (g : Gate) (policy : Policy) (req : GateRequest) (now : Instant) :
    Except Failure (Option String) → Prop
  | unsigned (needed : policy.NeedsUser req.method) (unsigned : g.signer = none) :
      UserRule g policy req now (.error .secretNotSet)
  | tokenMissing {signer : Signer} (needed : policy.NeedsUser req.method)
      (signed : g.signer = some signer) (missing : ∀ token, ¬Presents req.userToken token) :
      UserRule g policy req now (.error .userTokenMissing)
  | tokenInvalid {signer : Signer} {token : String} (needed : policy.NeedsUser req.method)
      (signed : g.signer = some signer) (sent : Presents req.userToken token)
      (invalid : ∀ user, ¬UserClaims.Names signer token now user) :
      UserRule g policy req now (.error .userTokenInvalid)
  | named {user : String} (shown : g.ShowsUser req now user) :
      UserRule g policy req now (.ok (some user))
  | anonymous (free : ¬policy.NeedsUser req.method) (nobody : ∀ user, ¬g.ShowsUser req now user) :
      UserRule g policy req now (.ok none)

/-- What follows for a request: it is admitted if both steps end well, and else the first that fails
decides. -/
inductive DecisionRule (g : Gate) (policy : Policy) (req : GateRequest) (store : Store)
    (now : Instant) : Except Failure Admission → Prop
  | admitted {subject user : Option String} (quota : QuotaRule g policy req store now (.ok subject))
      (identity : UserRule g policy req now (.ok user)) :
      DecisionRule g policy req store now (.ok ⟨subject, user⟩)
  | quotaFailed {e : Failure} (quota : QuotaRule g policy req store now (.error e)) :
      DecisionRule g policy req store now (.error e)
  | userFailed {subject : Option String} {e : Failure}
      (quota : QuotaRule g policy req store now (.ok subject))
      (identity : UserRule g policy req now (.error e)) :
      DecisionRule g policy req store now (.error e)

variable {g : Gate} {policy : Policy} {req : GateRequest} {store : Store} {now : Instant}

/-- A value that every rule of a total system gives is described by the rules. -/
theorem eq_iff_of_total {α : Type} {Rule : α → Prop} {value result : α}
    (sound : ∀ {a}, Rule a → value = a) (total : ∃ a, Rule a) : value = result ↔ Rule result := by
  refine ⟨fun h => ?_, sound⟩
  obtain ⟨a, ha⟩ := total
  rwa [← h, sound ha]

/-! ### What was sent -/

theorem given_eq_some_iff {sent : Option String} {text : String} :
    given sent = some text ↔ Presents sent text := by
  rw [given, Option.filter_eq_some_iff, Presents, decide_eq_true_eq]

theorem given_eq_none_iff {sent : Option String} :
    given sent = none ↔ ∀ text, ¬Presents sent text := by
  rw [Option.eq_none_iff_forall_ne_some]
  exact forall_congr' fun text => not_congr given_eq_some_iff

theorem ofRequest?_eq_some_iff {method : String} {m : AuthMethod} :
    AuthMethod.ofRequest? method = some m ↔
      m ≠ .always ∧ m.name = String.ofList (method.toList.map Char.toUpper) := by
  rw [AuthMethod.ofRequest?, Option.filter_eq_some_iff, decide_eq_true_eq, and_comm]
  refine and_congr_right fun _ => ⟨fun h => ?_, fun h => ?_⟩
  · simpa using List.find?_some h
  · rw [← h, AuthMethod.ofName?_name]

/-- A policy asks for a user exactly for the methods that it needs one for. -/
theorem requiresUser_iff {method : String} :
    policy.requiresUser method = true ↔ policy.NeedsUser method := by
  rw [Policy.requiresUser, Bool.or_eq_true, Policy.NeedsUser, Option.any_eq_true]
  refine or_congr_right ⟨?_, ?_⟩
  · rintro ⟨m, hm, hhas⟩
    obtain ⟨hne, hname⟩ := ofRequest?_eq_some_iff.1 hm
    exact ⟨m, hne, hname, hhas⟩
  · rintro ⟨m, hne, hname, hhas⟩
    exact ⟨m, ofRequest?_eq_some_iff.2 ⟨hne, hname⟩, hhas⟩

/-! ### The quota step -/

theorem quotaDecision_of_budgetRule (hnow : now ≤ Instant.last) {subject : String}
    {result : Except Failure (Option String)} (h : g.BudgetRule store now subject result) :
    (quotaDecision subject store (Limiter.checkSubject g.limiter store subject now)).1 =
      result := by
  cases h with
  | admitted answers budget =>
    rw [budgetOf] at budget
    rw [Limiter.checkSubject_of_answers answers hnow, Verdict.ofRemaining,
      if_neg (Int.not_le.2 budget)]
    rfl
  | limited answers spent =>
    rw [budgetOf] at spent
    rw [Limiter.checkSubject_of_answers answers hnow, Verdict.ofRemaining, if_pos spent]
    rfl
  | storeDown down =>
    rw [Limiter.checkSubject_of_not_answers down hnow]
    rfl

theorem exists_budgetRule (g : Gate) (store : Store) (now : Instant) (subject : String) :
    ∃ result, g.BudgetRule store now subject result := by
  by_cases hanswers : Limiter.Answers g.limiter store subject now
  · by_cases hspent : g.budgetOf store subject now ≤ 0
    · exact ⟨_, .limited hanswers hspent⟩
    · exact ⟨_, .admitted hanswers (Int.not_le.1 hspent)⟩
  · exact ⟨_, .storeDown hanswers⟩

theorem checkQuota_of_token {signer : Signer} {token : String} (needed : policy.NeedsToken)
    (signed : g.signer = some signer) (sent : Presents req.apiToken token) (store : Store) :
    g.checkQuota policy req store now =
      quotaDecision token store (Limiter.checkToken g.limiter signer store token now) := by
  rw [checkQuota, needed.1, needed.2, signed, given_eq_some_iff.2 sent]
  rfl

/-- The quota step ends as each of its rules says. -/
theorem checkQuota_of_rule (hnow : now ≤ Instant.last) {result : Except Failure (Option String)}
    (h : QuotaRule g policy req store now result) :
    (g.checkQuota policy req store now).1 = result := by
  cases h with
  | byAddress address bucket =>
    rw [checkQuota, if_pos address]
    exact quotaDecision_of_budgetRule hnow bucket
  | tokenFree address free =>
    rw [checkQuota, address, free]
    rfl
  | unsigned needed unsigned =>
    rw [checkQuota, needed.1, needed.2, unsigned]
    rfl
  | tokenMissing needed signed missing =>
    rw [checkQuota, needed.1, needed.2, signed, given_eq_none_iff.2 missing]
    rfl
  | tokenInvalid needed signed sent invalid =>
    rw [checkQuota_of_token needed signed sent,
      Limiter.checkToken_of_refused (Limiter.refusal_of_invalid hnow invalid)]
    rfl
  | tokenExpired needed signed sent held limit expired =>
    rw [checkQuota_of_token needed signed sent,
      Limiter.checkToken_of_refused (Limiter.refusal_of_expired hnow held limit expired)]
    rfl
  | byToken needed signed sent held young bucket =>
    rw [checkQuota_of_token needed signed sent,
      Limiter.checkToken_of_not_refused (Limiter.refusal_of_young hnow held young)]
    exact quotaDecision_of_budgetRule hnow bucket

theorem exists_quotaRule_of_signed {signer : Signer} (needed : policy.NeedsToken)
    (signed : g.signer = some signer) (store : Store) (now : Instant) :
    ∃ result, QuotaRule g policy req store now result := by
  by_cases hsent : ∃ token, Presents req.apiToken token
  · obtain ⟨token, hsent⟩ := hsent
    by_cases hheld : ∃ claims, QuotaClaims.Held signer token now claims
    · obtain ⟨claims, hheld⟩ := hheld
      by_cases hold : ∃ timeout, g.limiter.tokenTimeout = some timeout ∧ timeout < claims.age now
      · obtain ⟨timeout, hlimit, hexpired⟩ := hold
        exact ⟨_, .tokenExpired needed signed hsent hheld hlimit hexpired⟩
      · obtain ⟨result, hbucket⟩ := exists_budgetRule g store now token
        refine ⟨result, .byToken needed signed hsent hheld (fun timeout hlimit => ?_) hbucket⟩
        exact Nat.not_lt.1 fun hexpired => hold ⟨timeout, hlimit, hexpired⟩
    · exact ⟨_, .tokenInvalid needed signed hsent (not_exists.1 hheld)⟩
  · exact ⟨_, .tokenMissing needed signed (not_exists.1 hsent)⟩

theorem exists_quotaRule (g : Gate) (policy : Policy) (req : GateRequest) (store : Store)
    (now : Instant) : ∃ result, QuotaRule g policy req store now result := by
  cases haddress : policy.byAddress with
  | true =>
    obtain ⟨result, hbucket⟩ := exists_budgetRule g store now req.remoteAddress
    exact ⟨result, .byAddress haddress hbucket⟩
  | false =>
    cases hfree : policy.tokenFree with
    | true => exact ⟨_, .tokenFree haddress hfree⟩
    | false =>
      cases hsigner : g.signer with
      | none => exact ⟨_, .unsigned ⟨haddress, hfree⟩ hsigner⟩
      | some signer => exact exists_quotaRule_of_signed ⟨haddress, hfree⟩ hsigner store now

/-- The quota step ends in the one way that its rules give. -/
theorem checkQuota_eq_iff (hnow : now ≤ Instant.last) {result : Except Failure (Option String)} :
    (g.checkQuota policy req store now).1 = result ↔ QuotaRule g policy req store now result :=
  eq_iff_of_total (checkQuota_of_rule hnow) (exists_quotaRule g policy req store now)

/-! ### The user step -/

theorem verifiedUser_of_held {signer : Signer} {token : String} {claims : UserClaims}
    (hnow : now ≤ Instant.last) (held : UserClaims.Held signer token now claims) :
    verifiedUser signer token now = .ok (given (some claims.user)) := by
  rw [verifiedUser, UserClaims.userOf, (UserClaims.parse_eq_ok_some_iff hnow).2 held]
  rfl

theorem verifiedUser_of_not_held {signer : Signer} {token : String} (hnow : now ≤ Instant.last)
    (hnone : ∀ claims, ¬UserClaims.Held signer token now claims) :
    verifiedUser signer token now = .ok none := by
  rw [verifiedUser, UserClaims.userOf, (UserClaims.parse_eq_ok_none_iff hnow).2 hnone]
  rfl

/-- The verified user is the one that the token names. -/
theorem verifiedUser_of_names {signer : Signer} {token user : String} (hnow : now ≤ Instant.last)
    (names : UserClaims.Names signer token now user) :
    verifiedUser signer token now = .ok (some user) := by
  obtain ⟨hne, claims, hheld, huser⟩ := names
  rw [verifiedUser_of_held hnow hheld, huser, given_eq_some_iff.2 ⟨rfl, hne⟩]

theorem verifiedUser_of_not_names {signer : Signer} {token : String} (hnow : now ≤ Instant.last)
    (hnone : ∀ user, ¬UserClaims.Names signer token now user) :
    verifiedUser signer token now = .ok none := by
  by_cases hheld : ∃ claims, UserClaims.Held signer token now claims
  · -- a token with claims names nobody only if the name in them is empty
    obtain ⟨claims, hheld⟩ := hheld
    rw [verifiedUser_of_held hnow hheld, given_eq_none_iff.2]
    rintro user ⟨huser, hne⟩
    exact hnone user ⟨hne, claims, hheld, Option.some.inj huser⟩
  · exact verifiedUser_of_not_held hnow (not_exists.1 hheld)

theorem resolveUser_of_shown (hnow : now ≤ Instant.last) {user : String}
    (shown : g.ShowsUser req now user) : g.resolveUser policy req now = .ok (some user) := by
  obtain ⟨signer, token, hsigner, hsent, hnames⟩ := shown
  by_cases hneeded : policy.NeedsUser req.method
  · rw [resolveUser, if_pos (requiresUser_iff.2 hneeded), hsigner, given_eq_some_iff.2 hsent]
    simp only [verifiedUser_of_names hnow hnames, bind, Except.bind]
    rfl
  · rw [resolveUser, if_neg (mt requiresUser_iff.1 hneeded), hsigner, given_eq_some_iff.2 hsent]
    exact verifiedUser_of_names hnow hnames

theorem resolveUser_of_nobody (hnow : now ≤ Instant.last) (free : ¬policy.NeedsUser req.method)
    (nobody : ∀ user, ¬g.ShowsUser req now user) : g.resolveUser policy req now = .ok none := by
  rw [resolveUser, if_neg (mt requiresUser_iff.1 free)]
  cases hsigner : g.signer with
  | none => rfl
  | some signer =>
    cases hgiven : given req.userToken with
    | none => rfl
    | some token =>
      refine verifiedUser_of_not_names hnow fun user hnames => nobody user ?_
      exact ⟨signer, token, hsigner, given_eq_some_iff.1 hgiven, hnames⟩

theorem resolveUser_of_rule (hnow : now ≤ Instant.last) {result : Except Failure (Option String)}
    (h : UserRule g policy req now result) : g.resolveUser policy req now = result := by
  cases h with
  | unsigned needed unsigned => rw [resolveUser, if_pos (requiresUser_iff.2 needed), unsigned]
  | tokenMissing needed signed missing =>
    rw [resolveUser, if_pos (requiresUser_iff.2 needed), signed, given_eq_none_iff.2 missing]
  | tokenInvalid needed signed sent invalid =>
    rw [resolveUser, if_pos (requiresUser_iff.2 needed), signed, given_eq_some_iff.2 sent]
    simp only [verifiedUser_of_not_names hnow invalid, bind, Except.bind]
    rfl
  | named shown => exact resolveUser_of_shown hnow shown
  | anonymous free nobody => exact resolveUser_of_nobody hnow free nobody

theorem exists_userRule (g : Gate) (policy : Policy) (req : GateRequest) (now : Instant) :
    ∃ result, UserRule g policy req now result := by
  -- whether a user is needed makes no difference to one that is shown
  by_cases hshown : ∃ user, g.ShowsUser req now user
  · obtain ⟨user, hshown⟩ := hshown
    exact ⟨_, .named hshown⟩
  · by_cases hneeded : policy.NeedsUser req.method
    · cases hsigner : g.signer with
      | none => exact ⟨_, .unsigned hneeded hsigner⟩
      | some signer =>
        by_cases hsent : ∃ token, Presents req.userToken token
        · obtain ⟨token, hsent⟩ := hsent
          refine ⟨_, .tokenInvalid hneeded hsigner hsent fun user hnames => hshown ⟨user, ?_⟩⟩
          exact ⟨signer, token, hsigner, hsent, hnames⟩
        · exact ⟨_, .tokenMissing hneeded hsigner (not_exists.1 hsent)⟩
    · exact ⟨_, .anonymous hneeded (not_exists.1 hshown)⟩

/-- The user step ends in the one way that its rules give. -/
theorem resolveUser_eq_iff (hnow : now ≤ Instant.last) {result : Except Failure (Option String)} :
    g.resolveUser policy req now = result ↔ UserRule g policy req now result :=
  eq_iff_of_total (resolveUser_of_rule hnow) (exists_userRule g policy req now)

/-- A user is verified only on a clock that can be read. -/
theorem le_last_of_verifiedUser {signer : Signer} {token user : String}
    (h : verifiedUser signer token now = .ok (some user)) : now ≤ Instant.last := by
  obtain ⟨name, hname, hgiven⟩ := exists_of_bind_eq_ok h
  obtain ⟨claims?, hclaims, hread⟩ := exists_of_bind_eq_ok hname
  obtain ⟨payload?, hverify, hparse⟩ := exists_of_bind_eq_ok hclaims
  cases payload? with
  | some payload => exact (Signer.verify_eq_ok_some_iff.1 hverify).1
  | none =>
    -- no payload, no claims, and so the empty name, which is nobody's
    obtain rfl : none = claims? := Except.ok.inj hparse
    obtain rfl : "" = name := Except.ok.inj hread
    cases hgiven

/-- Where a user is needed, whoever passes was shown by a user token. -/
theorem showsUser_of_resolveUser (needed : policy.NeedsUser req.method) {user? : Option String}
    (h : g.resolveUser policy req now = .ok user?) :
    ∃ user, user? = some user ∧ g.ShowsUser req now user := by
  have hnow : now ≤ Instant.last := by
    rw [resolveUser, if_pos (requiresUser_iff.2 needed)] at h
    split at h
    · cases h
    · cases h
    · obtain ⟨verified, hverified, h⟩ := exists_of_bind_eq_ok h
      cases verified with
      | none => cases h
      | some user => exact le_last_of_verifiedUser hverified
  cases (resolveUser_eq_iff hnow).1 h with
  | named shown => exact ⟨_, rfl, shown⟩
  | anonymous free nobody => exact absurd needed free

theorem userOf_of_verifiedUser {signer : Signer} {token user : String}
    (h : verifiedUser signer token now = .ok (some user)) :
    UserClaims.userOf signer token now = .ok user ∧ user ≠ "" := by
  obtain ⟨name, hname, hgiven⟩ := exists_of_bind_eq_ok h
  obtain ⟨hsome, hne⟩ := given_eq_some_iff.1 (Except.ok.inj hgiven)
  obtain rfl := Option.some.inj hsome
  exact ⟨hname, hne⟩

/-- A user that the user step ends with is the one that the user token which was sent names. -/
theorem userOf_of_resolveUser {user : String} (h : g.resolveUser policy req now = .ok (some user)) :
    user ≠ "" ∧ ∃ token, Presents req.userToken token ∧ g.userOf token now = .ok user := by
  have hnamed : ∀ signer token, g.signer = some signer → given req.userToken = some token →
      verifiedUser signer token now = .ok (some user) →
      user ≠ "" ∧ ∃ token, Presents req.userToken token ∧ g.userOf token now = .ok user := by
    intro signer token hsigner hgiven hverified
    obtain ⟨huser, hne⟩ := userOf_of_verifiedUser hverified
    refine ⟨hne, token, given_eq_some_iff.1 hgiven, ?_⟩
    rw [userOf, hsigner]
    exact huser
  unfold resolveUser at h
  split at h
  · split at h
    · cases h
    · cases h
    · next signer token hsigner hgiven =>
      obtain ⟨verified, hverified, h⟩ := exists_of_bind_eq_ok h
      cases verified with
      | none => cases h
      | some name =>
        obtain rfl := Option.some.inj (Except.ok.inj h)
        exact hnamed signer token hsigner hgiven hverified
  · split at h
    · next signer token hsigner hgiven => exact hnamed signer token hsigner hgiven h
    · cases h

/-! ### The decision -/

theorem fst_judge (g : Gate) (policy : Policy) (req : GateRequest) (store : Store) (now : Instant) :
    (g.judge policy req store now).1 =
      (do
        let subject ← (g.checkQuota policy req store now).1
        let user ← g.resolveUser policy req now
        return ⟨subject, user⟩) := by
  unfold judge
  rcases g.checkQuota policy req store now with ⟨_ | subject, checked⟩
  · rfl
  · dsimp only
    cases g.resolveUser policy req now <;> rfl

theorem resolveUser_of_judge {admission : Admission}
    (h : (g.judge policy req store now).1 = .ok admission) :
    g.resolveUser policy req now = .ok admission.user := by
  rw [fst_judge] at h
  obtain ⟨subject, -, h⟩ := exists_of_bind_eq_ok h
  obtain ⟨user?, hresolve, h⟩ := exists_of_bind_eq_ok h
  obtain rfl := Except.ok.inj h
  exact hresolve

/-- Where a user is needed, whoever is admitted was shown by a user token. -/
theorem showsUser_of_judge {admission : Admission} (needed : policy.NeedsUser req.method)
    (h : (g.judge policy req store now).1 = .ok admission) :
    ∃ user, admission.user = some user ∧ g.ShowsUser req now user :=
  showsUser_of_resolveUser needed (resolveUser_of_judge h)

theorem judge_of_rule (hnow : now ≤ Instant.last) {decision : Except Failure Admission}
    (h : DecisionRule g policy req store now decision) :
    (g.judge policy req store now).1 = decision := by
  rw [fst_judge]
  cases h with
  | admitted quota identity =>
    rw [checkQuota_of_rule hnow quota, resolveUser_of_rule hnow identity]
    rfl
  | quotaFailed quota =>
    rw [checkQuota_of_rule hnow quota]
    rfl
  | userFailed quota identity =>
    rw [checkQuota_of_rule hnow quota, resolveUser_of_rule hnow identity]
    rfl

theorem exists_decisionRule (g : Gate) (policy : Policy) (req : GateRequest) (store : Store)
    (now : Instant) : ∃ decision, DecisionRule g policy req store now decision := by
  obtain ⟨_ | subject, hquota⟩ := exists_quotaRule g policy req store now
  · exact ⟨_, .quotaFailed hquota⟩
  · obtain ⟨_ | user, hidentity⟩ := exists_userRule g policy req now
    · exact ⟨_, .userFailed hquota hidentity⟩
    · exact ⟨_, .admitted hquota hidentity⟩

theorem UserRule.showsUser {user : String} (h : UserRule g policy req now (.ok (some user))) :
    g.ShowsUser req now user := by
  cases h with
  | named shown => exact shown

theorem not_showsUser_of_none (user : String) :
    ¬g.ShowsUser { req with userToken := none } now user := by
  rintro ⟨signer, token, -, ⟨hsent, -⟩, -⟩
  cases hsent

/-- The gate decides as its rules say. A user that it admits has a name and was shown by an
authentic user token, and where no user is needed, a token that shows nobody is as good as none. -/
theorem judge_eq_iff_rule (g : Gate) (policy : Policy) (req : GateRequest) (store : Store)
    (now : Instant) (hnow : now ≤ Instant.last) :
    (∀ decision, (g.judge policy req store now).1 = decision ↔
      DecisionRule g policy req store now decision) ∧
    (∀ admission user, (g.judge policy req store now).1 = .ok admission →
      admission.user = some user →
      user ≠ "" ∧ g.ShowsUser req now user) ∧
    (¬policy.NeedsUser req.method → (∀ user, ¬g.ShowsUser req now user) →
      g.judge policy req store now = g.judge policy { req with userToken := none } store now) := by
  have hrule : ∀ decision, (g.judge policy req store now).1 = decision ↔
      DecisionRule g policy req store now decision := fun decision =>
    eq_iff_of_total (judge_of_rule hnow) (exists_decisionRule g policy req store now)
  refine ⟨hrule, fun admission user hadmitted huser => ?_, fun hfree hnobody => ?_⟩
  · cases (hrule _).1 hadmitted with
    | admitted quota identity =>
      obtain rfl : _ = some user := huser
      obtain ⟨signer, token, hsigner, hsent, hne, hclaims⟩ := identity.showsUser
      exact ⟨hne, signer, token, hsigner, hsent, hne, hclaims⟩
  · -- the quota step does not look at the user token, and the user step finds nobody either way
    have hnone : g.resolveUser policy { req with userToken := none } now = .ok none :=
      resolveUser_of_nobody hnow hfree not_showsUser_of_none
    rw [judge, judge, hnone, resolveUser_of_nobody hnow hfree hnobody]
    rfl

/-! ### A request that has to show both tokens

Whoever posts has to show an api token that is not older than a minute, and to name a user. -/

namespace Postbox

/-- The holder of a secret. -/
def signer : Signer := Signer.ofText "wubalubadubdub!"

/-- A gate with that secret, for which api tokens are too old after a minute. -/
def gate : Gate where
  signer := some signer
  limiter := { tokenTimeout := some (Span.ofSeconds 60) }
  policies := .empty

/-- Posting takes a user. -/
def userToPost : Policy := { userFor := .ofList [.post] }

/-- What the api token claims. -/
def quota : Bytes :=
  Utf8.encode ("\x7b\"uuid\":\"00112233-4455-4677-8899-aabbccddeeff\"," ++
    "\"ts\":\"2023-11-14T22:13:20.123456789Z\"\x7d")

/-- What the user token claims. -/
def identity : Bytes :=
  Utf8.encode "\x7b\"user\":\"morty\",\"random\":\"\"\x7d"

/-- A minute after the api token was made, to the nanosecond. -/
def instant : Instant := 1700000060123456789

/-- The api token. -/
def apiToken : String := (signer.envelope quota (Expiry.ofInstant none)).encode

/-- The user token, which has a second left. -/
def userToken : String :=
  (signer.envelope identity (Expiry.ofInstant (some (instant + 1000000000)))).encode

/-- The bucket of the api token is seven seconds in debt, and two refills of five seconds are
due. -/
def indebted : Store where
  health := .sound
  buckets := Buckets.empty.set apiToken ⟨-7000000000, instant - 10000000000⟩

/-- A request that shows both tokens. -/
def request : GateRequest := ⟨"post", "198.51.100.7", some apiToken, some userToken⟩

theorem presents_apiToken : Presents (some apiToken) apiToken :=
  ⟨rfl, Envelope.encode_ne_empty _⟩

theorem needsUser : userToPost.NeedsUser "post" :=
  requiresUser_iff.1 (by decide)

theorem quotaRule (req : GateRequest) (sent : req.apiToken = some apiToken) :
    QuotaRule gate userToPost req indebted instant (.ok (some apiToken)) := by
  obtain ⟨claims, hclaims, hage⟩ : ∃ claims, QuotaClaims.ofPayload? quota = some claims ∧
      claims.age instant ≤ Span.ofSeconds 60 := by
    have hsome : (QuotaClaims.ofPayload? quota).any
        (fun claims => decide (claims.age instant ≤ Span.ofSeconds 60)) = true := by
      decide +kernel
    obtain ⟨claims, hclaims, hage⟩ := (Option.any_eq_true _ _).1 hsome
    exact ⟨claims, hclaims, of_decide_eq_true hage⟩
  have hheld : QuotaClaims.Held signer apiToken instant claims :=
    ⟨quota, ⟨Expiry.ofInstant none, by decide, rfl⟩, hclaims⟩
  have hbucket : indebted.buckets.find? apiToken =
      some ⟨-7000000000, instant - 10000000000⟩ := by
    rw [indebted, Buckets.find?_set, if_pos rfl]
  have hbudget : 0 < gate.budgetOf indebted apiToken instant := by
    rw [budgetOf, hbucket]
    decide
  refine .byToken ⟨rfl, rfl⟩ rfl (sent ▸ presents_apiToken) hheld (fun timeout hlimit => ?_)
    (.admitted (Limiter.answers_of_sound rfl) hbudget)
  obtain rfl := Option.some.inj hlimit
  exact hage

theorem shows_user : gate.ShowsUser request instant "morty" := by
  have hclaims : UserClaims.ofPayload? identity = some ⟨"morty", ""⟩ := by decide +kernel
  refine ⟨signer, userToken, rfl, ⟨rfl, Envelope.encode_ne_empty _⟩, by decide,
    ⟨"morty", ""⟩, ?_, rfl⟩
  exact ⟨identity, ⟨Expiry.ofInstant (some (instant + 1000000000)), by decide, rfl⟩, hclaims⟩

end Postbox

/-- With both tokens a post is admitted for the user that the user token names. With the api token
alone it passes the quota step, and the user step turns it away. -/
theorem judge_post :
    (Postbox.gate.judge Postbox.userToPost Postbox.request Postbox.indebted Postbox.instant).1 =
      .ok ⟨some Postbox.apiToken, some "morty"⟩ ∧
    (Postbox.gate.judge Postbox.userToPost { Postbox.request with userToken := none }
      Postbox.indebted Postbox.instant).1 = .error .userTokenMissing := by
  constructor
  · refine ((judge_eq_iff_rule _ _ _ _ _ (by decide)).1 _).2 (.admitted ?_ ?_)
    · exact Postbox.quotaRule _ rfl
    · exact .named Postbox.shows_user
  · refine ((judge_eq_iff_rule _ _ _ _ _ (by decide)).1 _).2
      (.userFailed (Postbox.quotaRule _ rfl) ?_)
    refine .tokenMissing Postbox.needsUser rfl fun token hsent => ?_
    cases hsent.1

end Gate

end Turnstile
