import Turnstile.Proofs.App.Routing

/-!
# The identity that is passed on

A handler learns who it acts for in two ways, from the delivery and from its query. Both say the
same, and it is what the gate has verified: whatever the client wrote into the query, in whichever
spelling, nothing of it is left under the parameter in which users are passed on.

## Main definitions

- `App.Invokes` — a request is handed on to the endpoints as a delivery

## Main statements

- `App.propagated_identity` — the identity that is handed on with a request
-/

namespace Turnstile

namespace App

/-- The request is admitted and handed on to the endpoints as a delivery. -/
def Invokes (app : App) (req : Request) (w : World) (d : Delivery) : Prop :=
  ∃ admission,
    (app.gate.judge (app.policyFor req) (req.forGate app.gate.settings) w.store w.now).1 =
      .ok admission ∧
    app.deliver req admission = .ok d

variable {app : App} {req : Request} {w left : World} {x : Exchange} {h : Handling}
  {admission : Admission} {d : Delivery}

theorem invokes_of_serve (served : app.serve req w = .ok (x, left))
    (handled : x.handling = some h) :
    app.Invokes req w h.delivery := by
  obtain ⟨admission, hjudge, -, -, hdeliver, -⟩ := exists_of_serve served handled
  exact ⟨admission, hjudge, hdeliver⟩

/-- The pairs of a delivery's query that stand under the user's parameter are what the delivery says
beside it. -/
theorem filter_pairs_of_deliver (delivered : app.deliver req admission = .ok d) :
    d.user = admission.user ∧
      d.uri.pairs.filter (fun pair => pair.1 = app.gate.settings.userParam) =
        (d.user.map ((app.gate.settings.userParam, ·))).toList := by
  obtain ⟨rewritten, hrewritten, hd⟩ := exists_of_bind_eq_ok delivered
  obtain rfl := Except.ok.inj hd
  exact ⟨rfl, Uri.filter_pairs_of_withUser hrewritten⟩

theorem exists_deliver (app : App) (admission : Admission)
    (place : ¬(req.uri.authority.isSome ∧ req.uri.scheme.isNone)) :
    ∃ d, app.deliver req admission = .ok d ∧ d.user = admission.user ∧ d.headers = req.headers := by
  obtain ⟨rewritten, hrewritten⟩ :=
    Uri.exists_withUser place app.gate.settings.userParam admission.user
  refine ⟨⟨req.method, rewritten.getD req.uri, req.headers, admission.user⟩, ?_, rfl, rfl⟩
  rw [deliver, hrewritten]
  rfl

/-- The identity that a query shows is the one beside it if only that stands under the parameter. -/
theorem ofDelivery_of_filter_pairs {param : String}
    (carried : d.uri.pairs.filter (fun pair => pair.1 = param) = (d.user.map ((param, ·))).toList) :
    Identity.ofDelivery param d = ⟨d.user, d.user.isSome⟩ := by
  have hfind : (d.uri.pairs.find? fun pair => pair.1 = param).map (·.2) = d.user := by
    rw [← List.head?_filter, carried]
    cases d.user <;> rfl
  unfold Identity.ofDelivery
  simp [hfind]

theorem response_of_handle {policy : Policy} {e : Endpoint} {params : List (String × String)}
    (endpoint : app.endpointFor d = some (e, params)) {response : Response}
    (answers : ∀ w, (e.handler d params w).1 = .ok response)
    (handled : app.handle policy admission d w = .ok (x, left)) : x.response = response := by
  unfold handle dispatch at handled
  simp only [endpoint] at handled
  obtain ⟨answer, hanswer, handled⟩ := exists_of_bind_eq_ok handled
  obtain ⟨charged, -, handled⟩ := exists_of_bind_eq_ok handled
  obtain ⟨rfl, -⟩ := Prod.mk.inj (Except.ok.inj handled)
  rw [answers] at hanswer
  exact (Except.ok.inj hanswer).symm

/-- **The identity that is passed on is the verified one and nothing else.** Whenever a request is
handed on to the endpoints, either it goes with a user, who is the one named by the user token that
was sent, and the query has one pair under the user's parameter, with that user; or it goes with
nobody, and the query has no such pair. So who asks `/whoami` is told the verified user, as
authenticated, or nobody. -/
theorem propagated_identity (app : App) (req : Request) (w : World) :
    (∀ d, app.Invokes req w d →
      ((∃ user, d.user = some user ∧ user ≠ "" ∧
          (∃ token, req.headers.text? app.gate.settings.userTokenHeader = some token ∧
            app.gate.userOf token w.now = .ok user) ∧
          d.uri.pairs.filter (fun pair => pair.1 = app.gate.settings.userParam) =
            [(app.gate.settings.userParam, user)]) ∨
        (d.user = none ∧ ∀ pair ∈ d.uri.pairs, pair.1 ≠ app.gate.settings.userParam)) ∧
      ∀ params w', Endpoint.whoami app.gate d params w' =
        (.ok (.json (Identity.toJson ⟨d.user, d.user.isSome⟩)), w')) ∧
    (∀ x left h, app.serve req w = .ok (x, left) → x.handling = some h →
      app.Invokes req w h.delivery ∧
      ∀ e params, app.endpointFor h.delivery = some (e, params) →
        e.handler = Endpoint.whoami app.gate →
        x.response = .json (Identity.toJson ⟨h.delivery.user, h.delivery.user.isSome⟩)) := by
  have htold : ∀ d, app.Invokes req w d → ∀ params w', Endpoint.whoami app.gate d params w' =
      (.ok (.json (Identity.toJson ⟨d.user, d.user.isSome⟩)), w') := by
    rintro d ⟨admission, -, hdeliver⟩ params w'
    rw [Endpoint.whoami, ofDelivery_of_filter_pairs (filter_pairs_of_deliver hdeliver).2]
  refine ⟨fun d hinvokes => ⟨?_, htold d hinvokes⟩, fun x left h served handled => ?_⟩
  · obtain ⟨admission, hjudge, hdeliver⟩ := hinvokes
    obtain ⟨huser, hpairs⟩ := filter_pairs_of_deliver hdeliver
    have hresolve := Gate.resolveUser_of_judge hjudge
    rw [← huser] at hresolve
    cases hd : d.user with
    | some user =>
      rw [hd] at hresolve hpairs
      obtain ⟨hne, token, hsent, hnamed⟩ := Gate.userOf_of_resolveUser hresolve
      exact Or.inl ⟨user, rfl, hne, ⟨token, hsent.1, hnamed⟩, hpairs⟩
    | none =>
      rw [hd] at hpairs
      refine Or.inr ⟨rfl, fun pair hpair => ?_⟩
      simpa using List.filter_eq_nil_iff.1 hpairs pair hpair
  · have hinvokes := invokes_of_serve served handled
    refine ⟨hinvokes, fun e params hendpoint hhandler => ?_⟩
    obtain ⟨admission, hjudge, hpolicy, -, hdeliver, -⟩ := exists_of_serve served handled
    rw [serve_of_admitted (Prod.ext hjudge rfl) hdeliver] at served
    refine response_of_handle hendpoint (fun w' => ?_) served
    rw [hhandler, htold _ hinvokes]

/-! ### A request that claims to come from somebody else -/

namespace Spoof

/-- A configuration in which `/whoami` asks for no api token, but still for a user. -/
def config : Config where
  auth := { secret := some "wubalubadubdub!" }
  routes := [⟨Endpoint.whoamiPath, { byAddress := true, userFor := .ofList [.always] }⟩]

/-- What a user token claims, for a user whose name has every character in it that holds a query
together. -/
def payload : Bytes :=
  Utf8.encode "\x7b\"user\":\"a&b=c+d%é\",\"random\":\"\"\x7d"

/-- A user token with these claims that is made with the secret. -/
def token : String :=
  ((Signer.ofText "wubalubadubdub!").envelope payload (Expiry.ofInstant none)).encode

/-- A request of that user's in which the parameter has been spelled twice for somebody else. -/
def request : Request :=
  ⟨"GET", ⟨none, none, "/whoami", some "_asUser=mallory&x=1&%5fasUs%65r=mallory"⟩,
    [⟨"x-user-token", Utf8.encode token⟩], some (.v4 ⟨198, 51, 100, 7⟩)⟩

/-- What the gate is asked about the request. -/
def asked : GateRequest := request.forGate (gateOf config).settings

theorem presents_token : Gate.Presents asked.userToken token :=
  (Signer.ofText "wubalubadubdub!").presents_encode payload _ (by decide +kernel)

theorem names_token :
    UserClaims.Names (Signer.ofText "wubalubadubdub!") token 1700000000000000000 "a&b=c+d%é" := by
  have hclaims : UserClaims.ofPayload? payload = some ⟨"a&b=c+d%é", ""⟩ := by decide +kernel
  exact ⟨by decide, _, ⟨payload, ⟨Expiry.ofInstant none, by decide, rfl⟩, hclaims⟩, rfl⟩

theorem judge_asked :
    ((gateOf config).judge { byAddress := true, userFor := .ofList [.always] } asked Store.empty
      1700000000000000000).1 = .ok ⟨some asked.remoteAddress, some "a&b=c+d%é"⟩ := by
  refine Gate.judge_of_rule (by decide) (.admitted ?_ ?_)
  · exact .byAddress rfl (.admitted (Limiter.answers_of_sound rfl) (by decide))
  · exact .named ⟨_, token, rfl, presents_token, names_token⟩

end Spoof

/-- The user is told their own name, whatever the query said. -/
theorem whoami_tells_verified_user :
    ∃ x left h, (ofConfig Spoof.config Endpoint.echo).serve Spoof.request
        { now := 1700000000000000000 } = .ok (x, left) ∧ x.handling = some h ∧
      h.delivery.user = some "a&b=c+d%é" ∧
      h.delivery.uri.pairs.filter (fun pair => pair.1 = "_asUser") = [("_asUser", "a&b=c+d%é")] ∧
      x.response = .json (Identity.toJson ⟨some "a&b=c+d%é", true⟩) := by
  have hpath : Pattern.decodePath "/whoami" = "/whoami" := Pattern.decodePath_of_not_mem (by decide)
  have hpolicy : (ofConfig Spoof.config Endpoint.echo).policyFor Spoof.request =
      { byAddress := true, userFor := .ofList [.always] } := by
    decide +kernel
  obtain ⟨d, hdeliver, huser, -⟩ := exists_deliver (ofConfig Spoof.config Endpoint.echo)
    ⟨some Spoof.asked.remoteAddress, some "a&b=c+d%é"⟩
    (by decide : ¬(Spoof.request.uri.authority.isSome ∧ Spoof.request.uri.scheme.isNone))
  have hreadable : Spoof.request.uri.Readable :=
    ⟨"/whoami?_asUser=mallory&x=1&%5fasUs%65r=mallory", by decide +kernel⟩
  obtain ⟨hmethod, huri⟩ := of_deliver hdeliver hreadable
  have hendpoint : (ofConfig Spoof.config Endpoint.echo).endpointFor d =
      some (⟨Endpoint.whoamiPath, some ["GET"], Endpoint.whoami (gateOf Spoof.config)⟩, []) := by
    have hdecoded : Pattern.decodePath d.uri.path = "/whoami" := by
      rw [huri]
      exact hpath
    rw [endpointFor_of_decodePath hdecoded, hmethod]
    rfl
  obtain ⟨x, left, served, ⟨h, handled, -⟩, -, -⟩ :=
    exists_ran (w := { now := 1700000000000000000 })
      (by rw [hpolicy]; exact Spoof.judge_asked) hdeliver
      hendpoint fun store =>
        ⟨_, _, rfl, (by decide : (1700000000000000000 : Instant) ≤ Instant.last)⟩
  obtain ⟨hidentity, hanswers⟩ := propagated_identity (ofConfig Spoof.config Endpoint.echo)
    Spoof.request { now := 1700000000000000000 }
  obtain ⟨hinvokes, hresponse⟩ := hanswers x left h served handled
  -- what was handed on is the delivery that the endpoint was found for
  obtain rfl : d = h.delivery := by
    obtain ⟨admission, hjudge, -, -, hdelivered, -⟩ := exists_of_serve served handled
    rw [hpolicy] at hjudge
    obtain rfl := Except.ok.inj (Spoof.judge_asked.symm.trans hjudge)
    exact Except.ok.inj (hdeliver.symm.trans hdelivered)
  refine ⟨x, left, h, served, handled, huser, ?_, ?_⟩
  · rcases (hidentity _ hinvokes).1 with ⟨user, hsome, -, -, hpairs⟩ | ⟨hnone, -⟩
    · obtain rfl := Option.some.inj (huser.symm.trans hsome)
      exact hpairs
    · rw [huser] at hnone
      cases hnone
  · rw [hresponse _ _ hendpoint rfl, huser]
    rfl

end App

end Turnstile
