import Turnstile.Gate.Registry
import Turnstile.Limiter.Basic
import Turnstile.Token.User

/-!
# The gate

The gate decides whether a request may pass. It takes two steps, and the first that fails decides:
the quota step, which finds out who is charged for the request, and the user step, which finds out
who it acts for. A request that has passed is charged for the time it took when it is done.

A rejected request is charged nothing, but its bucket may have been refilled by the check.

## Main definitions

- `Gate`, `GateRequest`, `Admission` — the gate, what it asks about, what it grants
- `Gate.checkQuota`, `Gate.resolveUser` — the two steps
- `Gate.judge`, `Gate.settle` — deciding, and charging afterwards
-/

namespace Turnstile

/-- Where a gate finds tokens and addresses, and where it passes the user on. -/
structure GateSettings where
  apiTokenHeader : String := "X-API-TOKEN"
  userTokenHeader : String := "X-USER-TOKEN"
  userParam : String := "_asUser"
  trustForwardedFor : Bool := false
deriving DecidableEq, Repr

namespace GateSettings

/-- Gate settings as data. -/
def toData (s : GateSettings) : Data :=
  .record [("api_token_header", .text s.apiTokenHeader),
    ("user_token_header", .text s.userTokenHeader), ("user_param", .text s.userParam),
    ("trust_forwarded_for", .bool s.trustForwardedFor)]

/-- Reads gate settings. -/
def read? {σ : Type} [Source σ] (v : σ) : Option GateSettings := do
  let d : GateSettings := {}
  let fields ← Record.open?
    ["api_token_header", "user_token_header", "user_param", "trust_forwarded_for"] v
  let api ← Record.field? fields "api_token_header" Source.text? d.apiTokenHeader
  let user ← Record.field? fields "user_token_header" Source.text? d.userTokenHeader
  let param ← Record.field? fields "user_param" Source.text? d.userParam
  let trust ← Record.field? fields "trust_forwarded_for" Source.bool? d.trustForwardedFor
  return ⟨api, user, param, trust⟩

end GateSettings

/-- A gate. Without a signer every check of a token fails. -/
structure Gate where
  signer : Option Signer
  limiter : LimiterSettings
  policies : Registry
  settings : GateSettings := {}
  userTokenLifetime : Span := UserClaims.defaultLifetime

/-- What a gate has to know about a request. -/
structure GateRequest where
  method : String
  remoteAddress : String
  apiToken : Option String := none
  userToken : Option String := none
deriving DecidableEq, Repr

/-- What a gate grants: the subject to charge, and the verified user, which is never empty. -/
structure Admission where
  subject : Option String
  user : Option String
deriving DecidableEq, Repr

namespace Gate

/-- The signer, without which no token can be made or checked. -/
def requireSigner (g : Gate) : Except Failure Signer :=
  match g.signer with
  | some s => .ok s
  | none => .error .secretNotSet

/-- Issues an api token. -/
def newApiToken (g : Gate) (now : Instant) (source : Entropy) : Except Failure String := do
  QuotaClaims.issue (← g.requireSigner) now source

/-- Issues a user token. -/
def newUserToken (g : Gate) (user : String) (now : Instant) (source : Entropy) :
    Except Failure String := do
  UserClaims.issue (← g.requireSigner) user g.userTokenLifetime now source

/-- The user that a token names, empty if it does not verify or there is no signer. -/
def userOf (g : Gate) (token : String) (now : Instant) : Except Failure String :=
  match g.signer with
  | some s => UserClaims.userOf s token now
  | none => .ok ""

/-- A text that counts as given only if it is not empty. -/
def given (s : Option String) : Option String :=
  s.filter (· ≠ "")

/-- The subject that a verdict admits. -/
def subjectOf (subject : String) : Verdict → Except Failure (Option String)
  | .success => .ok (some subject)
  | .tokenInvalid => .error .tokenInvalid
  | .tokenExpired => .error .tokenExpired
  | .rateLimited => .error .rateLimited

/-- Turns the outcome of a check into a decision about a subject. The store that the check leaves is
kept whatever is decided. -/
def quotaDecision (subject : String) (store : Store) :
    Except Failure (Verdict × Store) → Except Failure (Option String) × Store
  | .ok (verdict, checked) => (subjectOf subject verdict, checked)
  | .error e => (.error e, store)

/-- The quota step: who is charged, if anybody. -/
def checkQuota (g : Gate) (policy : Policy) (req : GateRequest) (store : Store) (now : Instant) :
    Except Failure (Option String) × Store :=
  if policy.byAddress then
    quotaDecision req.remoteAddress store
      (Limiter.checkSubject g.limiter store req.remoteAddress now)
  else if policy.tokenFree then (.ok none, store)
  else
    match g.signer, given req.apiToken with
    | none, _ => (.error .secretNotSet, store)
    | some _, none => (.error .tokenMissing, store)
    | some signer, some token =>
      quotaDecision token store (Limiter.checkToken g.limiter signer store token now)

/-- The user that a token names, none if it names nobody. -/
def verifiedUser (signer : Signer) (token : String) (now : Instant) :
    Except Failure (Option String) := do
  return given (some (← UserClaims.userOf signer token now))

/-- The user step: who the request acts for. A user token that is not required and does not verify
is passed over. -/
def resolveUser (g : Gate) (policy : Policy) (req : GateRequest) (now : Instant) :
    Except Failure (Option String) :=
  if policy.requiresUser req.method then
    match g.signer, given req.userToken with
    | none, _ => .error .secretNotSet
    | some _, none => .error .userTokenMissing
    | some signer, some token => do
      match ← verifiedUser signer token now with
      | some user => return some user
      | none => throw .userTokenInvalid
  else
    match g.signer, given req.userToken with
    | some signer, some token => verifiedUser signer token now
    | _, _ => .ok none

/-- Decides about a request. -/
def judge (g : Gate) (policy : Policy) (req : GateRequest) (store : Store) (now : Instant) :
    Except Failure Admission × Store :=
  match g.checkQuota policy req store now with
  | (.error e, store) => (.error e, store)
  | (.ok subject, store) =>
    match g.resolveUser policy req now with
    | .error e => (.error e, store)
    | .ok user => (.ok ⟨subject, user⟩, store)

/-- Charges an admitted request for the time it took. -/
def settle (admission : Admission) (elapsed : Span) (store : Store) (now : Instant) :
    Except Failure Store :=
  match admission.subject with
  | some subject => do return (← Limiter.useTime store subject elapsed now).2
  | none => .ok store

end Gate

end Turnstile
