import Turnstile.App.Service
import Turnstile.Proofs.Gate.Decision
import Turnstile.Proofs.Net.Identity

/-!
# How a request gets to a handler

A request that was handled had been admitted, was delivered with the admitted user in its query, and
was answered by the first endpoint that its method and decoded path lead to.

## Main definitions

- `Exchange.Ran` — the handler of an endpoint with a pattern was run
- `App.decision`, `App.checked` — what the gate decides about a request, and the world that it
  leaves

## Main statements

- `App.serve_eq`, `App.serve_cases` — a request is turned away or handled
- `App.exists_of_serve` — what has gone before a request is handled
- `App.serve_of_admitted` — what becomes of a request that is admitted
-/

namespace Turnstile

/-- The handler of an endpoint with this pattern was run. -/
def Exchange.Ran (x : Exchange) (pattern : String) : Prop :=
  ∃ h, x.handling = some h ∧ h.endpoint = some pattern

namespace App

/-- What the gate decides about a request. -/
def decision (app : App) (req : Request) (w : World) : Except Failure Admission :=
  (app.gate.judge (app.policyFor req) (req.forGate app.gate.settings) w.store w.now).1

/-- The world that the gate leaves. -/
def checked (app : App) (req : Request) (w : World) : World :=
  { w with
    store := (app.gate.judge (app.policyFor req) (req.forGate app.gate.settings) w.store w.now).2 }

variable {app : App} {req : Request} {w left : World} {x : Exchange} {h : Handling}
  {admission : Admission} {d : Delivery}

theorem fst_dispatch (app : App) (d : Delivery) (w : World) :
    (app.dispatch d w).1 = (app.endpointFor d).map (·.1.pattern) := by
  unfold dispatch
  cases app.endpointFor d <;> rfl

/-- Handling is one dispatch, and one charge for the time that it took. -/
theorem handle_cases {policy : Policy} (handled : app.handle policy admission d w = .ok (x, left)) :
    ∃ endpoint result moved response, app.dispatch d w = (endpoint, result, moved) ∧
      respond result = .ok response ∧
      charge admission (moved.reading - w.reading) moved = .ok left ∧
      x = ⟨policy, .ok admission, some ⟨d, endpoint, moved.reading - w.reading⟩, response⟩ := by
  obtain ⟨response, hresponse, handled⟩ := exists_of_bind_eq_ok handled
  obtain ⟨charged, hcharge, handled⟩ := exists_of_bind_eq_ok handled
  obtain ⟨rfl, rfl⟩ := Prod.mk.inj (Except.ok.inj handled)
  exact ⟨_, _, _, response, rfl, hresponse, hcharge, rfl⟩

theorem of_handle {policy : Policy} (handled : app.handle policy admission d w = .ok (x, left)) :
    x.policy = policy ∧ x.decision = .ok admission ∧
      ∃ elapsed, x.handling = some ⟨d, (app.endpointFor d).map (·.1.pattern), elapsed⟩ := by
  rw [← fst_dispatch app d w]
  obtain ⟨endpoint, result, moved, response, hdispatch, -, -, rfl⟩ := handle_cases handled
  rw [hdispatch]
  exact ⟨rfl, rfl, _, rfl⟩

/-- Serving goes on from the world that the gate leaves. -/
theorem serve_eq (app : App) (req : Request) (w : World) :
    app.serve req w =
      match app.decision req w with
      | .error .halted => .error .halted
      | .error e => .ok (⟨app.policyFor req, .error e, none, .failed e⟩, app.checked req w)
      | .ok admission =>
        match app.deliver req admission with
        | .error e => .ok (⟨app.policyFor req, .ok admission, none, .failed e⟩, app.checked req w)
        | .ok d => app.handle (app.policyFor req) admission d (app.checked req w) :=
  rfl

/-- A request is turned away, or it is admitted and handled, and either way in the store that the
gate leaves. -/
theorem serve_cases (served : app.serve req w = .ok (x, left)) :
    (app.decision req w ≠ .error .halted ∧ x.handling = none ∧ (∃ e, x.response = .failed e) ∧
      left = app.checked req w) ∨
    ∃ admission d, app.decision req w = .ok admission ∧ app.deliver req admission = .ok d ∧
      app.handle (app.policyFor req) admission d (app.checked req w) = .ok (x, left) := by
  rw [serve_eq] at served
  split at served
  · cases served
  · next e runs hdecision =>
    obtain ⟨rfl, rfl⟩ := Prod.mk.inj (Except.ok.inj served)
    rw [hdecision]
    exact Or.inl ⟨fun halted => runs (Except.error.inj halted), rfl, ⟨e, rfl⟩, rfl⟩
  · next admission hdecision =>
    split at served
    · next e hdeliver =>
      obtain ⟨rfl, rfl⟩ := Prod.mk.inj (Except.ok.inj served)
      rw [hdecision]
      exact Or.inl ⟨nofun, rfl, ⟨e, rfl⟩, rfl⟩
    · next d hdeliver => exact Or.inr ⟨admission, d, hdecision, hdeliver, served⟩

/-- A request that was handled had been admitted, and was delivered to the endpoint that it leads
to. -/
theorem exists_of_serve (served : app.serve req w = .ok (x, left)) (handled : x.handling = some h) :
    ∃ admission,
      (app.gate.judge (app.policyFor req) (req.forGate app.gate.settings) w.store w.now).1 =
        .ok admission ∧
      x.policy = app.policyFor req ∧ x.decision = .ok admission ∧
      app.deliver req admission = .ok h.delivery ∧
      h.endpoint = (app.endpointFor h.delivery).map (·.1.pattern) := by
  rcases serve_cases served with ⟨-, hnone, -⟩ | ⟨admission, d, hjudge, hdeliver, hhandle⟩
  · rw [hnone] at handled
    cases handled
  · obtain ⟨hpolicy, hdecision, elapsed, hhandling⟩ := of_handle hhandle
    obtain rfl := Option.some.inj (handled.symm.trans hhandling)
    exact ⟨admission, hjudge, hpolicy, hdecision, hdeliver, rfl⟩

/-- A request that is admitted and can be delivered is handled, in the store that the gate
leaves. -/
theorem serve_of_admitted {store : Store}
    (admitted : app.gate.judge (app.policyFor req) (req.forGate app.gate.settings) w.store w.now =
      (.ok admission, store))
    (delivered : app.deliver req admission = .ok d) :
    app.serve req w = app.handle (app.policyFor req) admission d { w with store := store } := by
  unfold serve
  dsimp only
  rw [admitted]
  dsimp only
  rw [delivered]

/-- On a clock that can be read, charging always ends. -/
theorem exists_charge (admission : Admission) (elapsed : Span) {w : World}
    (hnow : w.now ≤ Instant.last) : ∃ charged, charge admission elapsed w = .ok charged := by
  unfold charge Gate.settle
  cases admission.subject with
  | none => exact ⟨_, rfl⟩
  | some subject =>
    by_cases hworks : w.store.Works .charge
    · simp only [Limiter.useTime, Store.charge_of_works hworks hnow]
      exact ⟨_, rfl⟩
    · simp only [Limiter.useTime, Store.charge, Store.require_of_not_works hworks]
      exact ⟨_, rfl⟩

/-- A request that is admitted and leads to an endpoint that answers has the handler there run. -/
theorem exists_ran {e : Endpoint} {params : List (String × String)}
    (admitted : (app.gate.judge (app.policyFor req)
      (req.forGate app.gate.settings) w.store w.now).1 =
      .ok admission)
    (delivered : app.deliver req admission = .ok d)
    (endpoint : app.endpointFor d = some (e, params))
    (answers : ∀ store, ∃ response after,
      e.handler d params { w with store := store } = (.ok response, after) ∧
        after.now ≤ Instant.last) :
    ∃ x left, app.serve req w = .ok (x, left) ∧ x.Ran e.pattern ∧ x.policy = app.policyFor req ∧
      x.decision = .ok admission := by
  obtain ⟨response, after, hanswer, hnow⟩ := answers
    (app.gate.judge (app.policyFor req) (req.forGate app.gate.settings) w.store w.now).2
  obtain ⟨charged, hcharge⟩ := exists_charge admission (after.reading - w.reading) hnow
  rw [serve_of_admitted (Prod.ext admitted rfl) delivered]
  unfold handle dispatch
  simp only [endpoint, hanswer, respond, bind, Except.bind, hcharge]
  exact ⟨_, _, rfl, ⟨_, rfl, rfl⟩, rfl, rfl⟩

/-- What is delivered has the method of the request and, if its target was read, the path. -/
theorem of_deliver (delivered : app.deliver req admission = .ok d) (readable : req.uri.Readable) :
    d.method = req.method ∧ d.uri.path = req.uri.path := by
  obtain ⟨rewritten, hrewritten, hd⟩ := exists_of_bind_eq_ok delivered
  obtain rfl := Except.ok.inj hd
  refine ⟨rfl, ?_⟩
  cases rewritten with
  | none => rfl
  | some uri => exact Uri.path_of_withUser readable.formed hrewritten

end App

end Turnstile
