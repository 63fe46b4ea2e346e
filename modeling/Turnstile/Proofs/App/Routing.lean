import Turnstile.Proofs.App.Service
import Turnstile.Proofs.Text.Utf8

/-!
# The policy under which a handler runs

The gate decides under the policy of the first pattern that the path matches as it was sent,
whatever the method. The handler that runs is the one of the first endpoint that the method and the
decoded path lead to. Where the two patterns differ, a handler runs under a policy that is not its
own.

## Main statements

- `Pattern.decodePath_of_not_mem` — a path without percent signs decodes to itself
- `App.policy_of_ran` — when a handler runs under its own policy
- `App.whoami_ran_without_user` — an encoded letter gets a request past the policy of `/whoami`
-/

namespace Turnstile

/-! ### Paths that decode to themselves -/

namespace Pattern

theorem percentDecode_cons_of_ne {b : UInt8} (hb : b ≠ 0x25) (rest : Bytes) :
    percentDecode (b :: rest) = b :: percentDecode rest := by
  match rest with
  | [] => rfl
  | [_] => rfl
  | high :: low :: rest =>
    rw [percentDecode]
    split
    · exact if_neg fun h => hb h.1
    · rfl

/-- Decoding changes nothing where there is no percent sign. -/
theorem percentDecode_of_not_mem {bs : Bytes} (h : (0x25 : UInt8) ∉ bs) :
    percentDecode bs = bs := by
  induction bs with
  | nil => rfl
  | cons b bs ih =>
    rw [List.mem_cons, not_or] at h
    rw [percentDecode_cons_of_ne (Ne.symm h.1), ih h.2]

/-- A path without percent signs decodes to itself. -/
theorem decodePath_of_not_mem {path : String} (h : '%' ∉ path.toList) : decodePath path = path := by
  have hbytes : (0x25 : UInt8) ∉ Utf8.encode path := by
    intro hmem
    obtain ⟨c, hc, hbyte⟩ := Utf8.mem_encode.1 hmem
    rw [Utf8.eq_of_mem_encodeChar (by decide) hbyte] at hc
    exact h hc
  rw [decodePath, percentDecode_of_not_mem hbytes, Utf8.decodeLenient_encode]

end Pattern

/-! ### Policies that tell patterns apart -/

namespace Registry

/-- Two lookups agree in every registry only if they are for the same pattern. -/
theorem lookup_eq_iff {sent : Option String} {pattern : String} :
    (∀ policies : Registry, policies.lookup sent = policies.lookup (some pattern)) ↔
      sent = some pattern := by
  constructor
  · intro h
    by_contra hne
    -- a registry that knows nothing but the one pattern tells it from everything else
    have honly := h ⟨[⟨pattern, .unlimited⟩]⟩
    have hpattern : (⟨[⟨pattern, .unlimited⟩]⟩ : Registry).lookup (some pattern) = .unlimited := by
      simp [lookup, find?]
    have hsent : (⟨[⟨pattern, .unlimited⟩]⟩ : Registry).lookup sent = {} := by
      cases sent with
      | none => rfl
      | some other =>
        have hother : ¬pattern = other := fun heq => hne (by rw [heq])
        simp [lookup, find?, hother]
    rw [hpattern, hsent] at honly
    exact absurd honly (by decide)
  · rintro rfl policies
    rfl

end Registry

/-- A field that holds a visible ASCII text holds that text. -/
theorem HeaderField.text?_encode {s : String} (name : String)
    (hascii : ∀ c ∈ s.toList, c.toNat < 0x7F) : text? ⟨name, Utf8.encode s⟩ = some s := by
  have hall : (Utf8.encode s).all (· < 0x7F) = true := by
    rw [List.all_eq_true]
    intro b hb
    obtain ⟨c, hc, hbyte⟩ := Utf8.mem_encode.1 hb
    have hlt := hascii c hc
    rw [Utf8.encodeChar_of_lt (Nat.lt_succ_of_lt hlt), List.mem_singleton] at hbyte
    rw [hbyte, decide_eq_true_eq, UInt8.lt_iff_toNat_lt, Bytes.toNat_byte (by omega)]
    exact hlt
  rw [text?, if_pos hall, Utf8.decodeLenient_encode]

/-- A token that is sent alone, under the name that it is looked for by, is presented. -/
theorem Signer.presents_encode (signer : Signer) (payload : Bytes) (expiry : Expiry)
    {header name : String} (hname : headerName? header = some name) :
    Gate.Presents
      (Headers.text? [⟨name, Utf8.encode (signer.envelope payload expiry).encode⟩] header)
      (signer.envelope payload expiry).encode := by
  have hfield : Headers.text? [⟨name, Utf8.encode (signer.envelope payload expiry).encode⟩] header =
      HeaderField.text? ⟨name, Utf8.encode (signer.envelope payload expiry).encode⟩ := by
    simp [Headers.text?, hname]
  refine ⟨hfield.trans ?_, Envelope.encode_ne_empty _⟩
  exact HeaderField.text?_encode _ fun c hc => Envelope.toNat_lt_of_mem_encode hc

theorem Endpoint.exists_health {w : World} (hnow : w.now ≤ Instant.last) (d : Delivery)
    (params : List (String × String)) :
    ∃ response after, health d params w = (.ok response, after) ∧ after.now ≤ Instant.last := by
  unfold health
  rw [readClock_of_le hnow]
  exact ⟨_, _, rfl, hnow⟩

namespace App

variable {app : App} {req : Request} {w left : World} {x : Exchange} {pattern : String}

theorem endpointFor_of_decodePath {d : Delivery} {path : String}
    (decoded : Pattern.decodePath d.uri.path = path) :
    app.endpointFor d = app.endpoints.findSome? fun e => (e.match? d.method path).map (e, ·) := by
  rw [endpointFor, decoded]

/-- The gate and the endpoints agree on a path if it decodes to itself and every endpoint whose
pattern it matches answers the method. -/
theorem patternOf_eq_of_endpointFor {d : Delivery}
    (decoded : Pattern.decodePath d.uri.path = d.uri.path)
    (answers : ∀ e ∈ app.endpoints, (Pattern.match? e.pattern d.uri.path).isSome →
      e.methods.all (·.contains d.method)) :
    (app.endpointFor d).map (·.1.pattern) = app.patternOf d.uri.path := by
  rw [endpointFor_of_decodePath decoded]
  unfold patternOf
  generalize app.endpoints = endpoints at answers
  induction endpoints with
  | nil => rfl
  | cons e es ih =>
    rw [List.findSome?_cons, List.find?_cons]
    have hes := ih fun e' he' => answers e' (List.mem_cons_of_mem _ he')
    cases hmatch : Pattern.match? e.pattern d.uri.path with
    | none =>
      have hnone : e.match? d.method d.uri.path = none := by
        unfold Endpoint.match?
        split
        · exact hmatch
        · rfl
      rw [hnone]
      exact hes
    | some params =>
      have hmethods := answers e List.mem_cons_self (by rw [hmatch]; rfl)
      have hsome : e.match? d.method d.uri.path = some params := by
        rw [Endpoint.match?, if_pos hmethods, hmatch]
      rw [hsome]
      rfl

/-- The policy that a handler runs under. The request was admitted under the policy of the pattern
that its path matches as it was sent. That is the policy of the handler's own pattern just if the
registry has the same policy for both, and it is so in every registry just if they are one pattern:
as they are if the path decodes to itself and every endpoint whose pattern it matches answers the
method. A handler that runs under its own policy runs for a user that was shown, if its policy needs
one. -/
theorem policy_of_ran (app : App) (req : Request) (w left : World) (x : Exchange) (pattern : String)
    (served : app.serve req w = .ok (x, left)) (ran : x.Ran pattern) :
    (∃ admission, x.decision = .ok admission ∧
      (app.gate.judge x.policy (req.forGate app.gate.settings) w.store w.now).1 = .ok admission) ∧
    (x.policy = app.gate.policies.lookup (some pattern) ↔
      app.gate.policies.lookup (app.patternOf req.uri.path) =
        app.gate.policies.lookup (some pattern)) ∧
    ((∀ policies : Registry,
      policies.lookup (app.patternOf req.uri.path) = policies.lookup (some pattern)) ↔
        app.patternOf req.uri.path = some pattern) ∧
    (req.uri.Readable → Pattern.decodePath req.uri.path = req.uri.path →
      (∀ e ∈ app.endpoints, (Pattern.match? e.pattern req.uri.path).isSome →
        e.methods.all (·.contains req.method)) →
      app.patternOf req.uri.path = some pattern) ∧
    (x.policy = app.gate.policies.lookup (some pattern) →
      (app.gate.policies.lookup (some pattern)).NeedsUser req.method →
      ∃ admission user, x.decision = .ok admission ∧ admission.user = some user ∧
        app.gate.ShowsUser (req.forGate app.gate.settings) w.now user) := by
  obtain ⟨h, handled, hendpoint⟩ := ran
  obtain ⟨admission, hjudge, hpolicy, hdecision, hdeliver, hreported⟩ :=
    exists_of_serve served handled
  rw [← hpolicy] at hjudge
  refine ⟨⟨admission, hdecision, hjudge⟩, ?_, Registry.lookup_eq_iff, ?_, ?_⟩
  · rw [hpolicy]
    rfl
  · intro readable decoded answers
    obtain ⟨hmethod, hpath⟩ := of_deliver hdeliver readable
    rw [← hpath] at decoded answers ⊢
    rw [← hmethod] at answers
    rw [← patternOf_eq_of_endpointFor decoded answers, ← hreported, hendpoint]
  · intro own needed
    rw [← own] at needed
    have hneeded : x.policy.NeedsUser (req.forGate app.gate.settings).method := needed
    obtain ⟨user, huser, hshown⟩ := Gate.showsUser_of_judge hneeded hjudge
    exact ⟨admission, user, hdecision, huser, hshown⟩

/-- A request that spells the path of `/health` out. -/
def plainHealth : Request :=
  ⟨"GET", ⟨none, none, "/health", none⟩, [], none⟩

/-- The handler of `/health` runs under its own policy. -/
theorem health_ran_unlimited :
    ∃ x left, (ofConfig {} []).serve plainHealth { now := 0 } = .ok (x, left) ∧
      x.Ran Endpoint.healthPath ∧ x.policy = Policy.unlimited := by
  have hpath : Pattern.decodePath "/health" = "/health" :=
    Pattern.decodePath_of_not_mem (by decide)
  have hpolicy : (ofConfig {} []).policyFor plainHealth = .unlimited := by decide +kernel
  have hendpoint : (ofConfig {} []).endpointFor ⟨"GET", plainHealth.uri, [], none⟩ =
      some (⟨Endpoint.healthPath, some ["GET"], Endpoint.health⟩, []) := by
    rw [endpointFor_of_decodePath (d := ⟨"GET", plainHealth.uri, [], none⟩) hpath]
    rfl
  have hjudge : ((ofConfig {} []).gate.judge ((ofConfig {} []).policyFor plainHealth)
      (plainHealth.forGate (ofConfig {} []).gate.settings) Store.empty 0).1 = .ok ⟨none, none⟩ := by
    rw [hpolicy]
    rfl
  obtain ⟨x, left, served, ran, -, -⟩ := exists_ran (w := { now := 0 }) hjudge rfl hendpoint
    fun store => Endpoint.exists_health (w := { now := 0, store := store })
      (by decide : (0 : Instant) ≤ Instant.last) ⟨"GET", plainHealth.uri, [], none⟩ []
  obtain ⟨-, hown, -, hpattern, -⟩ := policy_of_ran _ _ _ _ _ _ served ran
  refine ⟨x, left, served, ran, ?_⟩
  rw [hown.2 (by rw [hpattern ⟨"/health", by decide +kernel⟩ hpath (by decide +kernel)])]
  decide +kernel

/-! ### A way around a policy

A request for `/whoami` has to show who it acts for. With one letter of the path percent-encoded it
does not have to: the path as sent matches no pattern, so that the request is decided under the
policy that patterns without one of their own have, and an api token is enough. -/

namespace Detour

/-- The holder of a secret. -/
def signer : Signer := Signer.ofText "wubalubadubdub!"

/-- A configuration with that secret, and nothing else of its own. -/
def config : Config := { auth := { secret := some "wubalubadubdub!" } }

/-- What an api token claims. -/
def payload : Bytes :=
  Utf8.encode ("\x7b\"uuid\":\"00112233-4455-4677-8899-aabbccddeeff\"," ++
    "\"ts\":\"2023-11-14T22:13:20.123456789Z\"\x7d")

/-- An api token with these claims that is made with the secret. -/
def token : String := (signer.envelope payload (Expiry.ofInstant none)).encode

/-- A request for `/whoami` with the first letter percent-encoded, an api token and no user
token. -/
def request : Request :=
  ⟨"GET", ⟨none, none, "/%77hoami", none⟩, [⟨"x-api-token", Utf8.encode token⟩],
    some (.v4 ⟨198, 51, 100, 7⟩)⟩

/-- What the gate is asked about the request. -/
def asked : GateRequest := request.forGate (gateOf config).settings

theorem presents_token : Gate.Presents asked.apiToken token :=
  signer.presents_encode payload _ (by decide +kernel)

theorem userToken_asked : asked.userToken = none := by
  have hname : headerName? "X-USER-TOKEN" = some "x-user-token" := by decide +kernel
  have hfind : ∀ value, Headers.text? [⟨"x-api-token", value⟩] "X-USER-TOKEN" = none := by
    intro value
    simp [Headers.text?, hname]
  exact hfind _

theorem held_token : ∃ claims, QuotaClaims.Held signer token 1700000000123456789 claims := by
  obtain ⟨claims, hclaims⟩ : ∃ claims, QuotaClaims.ofPayload? payload = some claims :=
    Option.isSome_iff_exists.1 (by decide +kernel)
  exact ⟨claims, payload, ⟨Expiry.ofInstant none, by decide, rfl⟩, hclaims⟩

/-- Under the default policy the request is admitted, for nobody. -/
theorem judge_asked :
    ((gateOf config).judge {} asked Store.empty 1700000000123456789).1 =
      .ok ⟨some token, none⟩ := by
  obtain ⟨claims, hheld⟩ := held_token
  have hsigned : (gateOf config).signer = some signer := rfl
  have htimeout : (gateOf config).limiter.tokenTimeout = none := rfl
  refine Gate.judge_of_rule (by decide) (.admitted ?_ ?_)
  · refine .byToken ⟨rfl, rfl⟩ hsigned presents_token hheld (fun timeout hlimit => ?_) ?_
    · rw [htimeout] at hlimit
      cases hlimit
    · exact .admitted (Limiter.answers_of_sound rfl) (by decide)
  · refine .anonymous (fun h => absurd (Gate.requiresUser_iff.2 h) (by decide)) ?_
    rintro user ⟨_, _, -, ⟨hsent, -⟩, -⟩
    rw [userToken_asked] at hsent
    cases hsent

end Detour

/-- The handler of `/whoami` runs for nobody, under a policy that is not its own. -/
theorem whoami_ran_without_user :
    ∃ x left, (ofConfig Detour.config Endpoint.echo).serve Detour.request
        { now := 1700000000123456789 } = .ok (x, left) ∧
      x.Ran Endpoint.whoamiPath ∧
      x.policy ≠ (gateOf Detour.config).policies.lookup (some Endpoint.whoamiPath) ∧
      ∃ admission, x.decision = .ok admission ∧ admission.user = none := by
  have hpath : Pattern.decodePath "/%77hoami" = "/whoami" := by
    have hbytes : Pattern.percentDecode (Utf8.encode "/%77hoami") = Utf8.encode "/whoami" := by
      decide +kernel
    rw [Pattern.decodePath, hbytes, Utf8.decodeLenient_encode]
  have hpolicy : (ofConfig Detour.config Endpoint.echo).policyFor Detour.request = {} := by
    decide +kernel
  have hendpoint : (ofConfig Detour.config Endpoint.echo).endpointFor
      ⟨"GET", ⟨none, none, "/%77hoami", none⟩, Detour.request.headers, none⟩ =
        some (⟨Endpoint.whoamiPath, some ["GET"], Endpoint.whoami (gateOf Detour.config)⟩, []) := by
    rw [endpointFor_of_decodePath (d := ⟨"GET", ⟨none, none, "/%77hoami", none⟩, _, none⟩) hpath]
    rfl
  have hdeliver : (ofConfig Detour.config Endpoint.echo).deliver Detour.request
      ⟨some Detour.token, none⟩ =
        .ok ⟨"GET", ⟨none, none, "/%77hoami", none⟩, Detour.request.headers, none⟩ := rfl
  have hjudge : ((ofConfig Detour.config Endpoint.echo).gate.judge
      ((ofConfig Detour.config Endpoint.echo).policyFor Detour.request) Detour.asked Store.empty
      1700000000123456789).1 = .ok ⟨some Detour.token, none⟩ := by
    rw [hpolicy]
    exact Detour.judge_asked
  obtain ⟨x, left, served, ran, hown, hdecision⟩ :=
    exists_ran (w := { now := 1700000000123456789 }) hjudge hdeliver hendpoint
      fun store => ⟨_, _, rfl, (by decide : (1700000000123456789 : Instant) ≤ Instant.last)⟩
  refine ⟨x, left, served, ran, ?_, _, hdecision, rfl⟩
  rw [hown, hpolicy]
  decide +kernel

end App

end Turnstile
