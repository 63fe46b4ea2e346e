import Turnstile.Proofs.App.Service
import Turnstile.Proofs.Gate.Quota

/-!
# Runs of an application

Requests arrive one after the other, while no sweep goes on. Each finds the wall clock where it then
stands, and is served in the world that the one before it left.

## Main definitions

- `Arrival`, `Visit` — a request that arrives, and one that was served
- `App.run` — serving requests one after the other
- `Endpoint.Steady` — endpoints that leave the buckets alone
- `App.Stops` — the clock comes to stand where it cannot be read

## Main statements

- `Endpoint.steady_builtin`, `Endpoint.steady_echo` — steady endpoints
- `App.stops_of_run` — all that a run can fail of
-/

namespace Turnstile

/-- A request, the instant that the wall clock shows when it arrives, the time that the other clock
has gone on in between, and the randomness there is. -/
structure Arrival where
  request : Request
  now : Instant
  idle : Span := 0
  entropy : Entropy := Entropy.broken

/-- The world in which a request arrives. -/
def World.meet (w : World) (a : Arrival) : World :=
  { w with now := a.now, reading := w.reading + a.idle, entropy := a.entropy }

/-- A request that was served, with the world before and after it. -/
structure Visit where
  request : Request
  before : World
  exchange : Exchange
  after : World

/-- An endpoint that leaves the buckets alone, starts no sweep, and answers on a clock that can be
read. -/
def Endpoint.Steady (e : Endpoint) : Prop :=
  ∀ d params w, w.sweeps = [] →
    (e.handler d params w).2.store = w.store ∧ (e.handler d params w).2.sweeps = [] ∧
      ((e.handler d params w).1 = .error .halted → Instant.last < (e.handler d params w).2.now)

namespace Endpoint

theorem lt_of_newApiToken {g : Gate} {now : Instant} {source : Entropy}
    (h : g.newApiToken now source = .error .halted) : Instant.last < now := by
  rcases eq_error_or_exists_of_bind_eq_error h with hsigner | ⟨signer, -, hissue⟩
  · unfold Gate.requireSigner at hsigner
    split at hsigner
    · cases hsigner
    · cases hsigner
  · exact QuotaClaims.lt_of_issue hissue

theorem steady_builtin (g : Gate) : ∀ e ∈ builtin g, e.Steady := by
  intro e he
  simp only [builtin, List.mem_cons, List.not_mem_nil, or_false] at he
  obtain rfl | rfl | rfl := he
  · refine fun d params w unswept => ⟨rfl, unswept, fun halted => ?_⟩
    rcases eq_error_or_exists_of_bind_eq_error halted with htoken | ⟨_, -, hend⟩
    · exact lt_of_newApiToken htoken
    · cases hend
  · exact fun d params w unswept => ⟨rfl, unswept, fun halted => by cases halted⟩
  · refine fun d params w unswept => ⟨rfl, unswept, fun halted => ?_⟩
    rcases eq_error_or_exists_of_bind_eq_error halted with hclock | ⟨_, -, hend⟩
    · exact lt_of_readClock hclock
    · cases hend

/-- Without sweeps, letting time pass does not fail and leaves the buckets alone. -/
theorem advance_of_unswept {w : World} (unswept : w.sweeps = []) (span : Span) :
    w.advance span = .ok { w with now := w.now + (span : Int), reading := w.reading + span } := by
  rw [World.advance, unswept]
  rfl

theorem steady_echo : ∀ e ∈ echo, e.Steady := by
  have hhandler : ∀ pattern methods, (⟨pattern, methods, echoHandler⟩ : Endpoint).Steady := by
    intro pattern methods d params w unswept
    change (echoHandler d params w).2.store = w.store ∧ (echoHandler d params w).2.sweeps = [] ∧
      ((echoHandler d params w).1 = .error .halted → Instant.last < (echoHandler d params w).2.now)
    rw [echoHandler, advance_of_unswept unswept]
    exact ⟨rfl, unswept, fun halted => by cases halted⟩
  intro e he
  simp only [echo, List.mem_cons, List.not_mem_nil, or_false] at he
  obtain rfl | rfl | rfl := he
  · exact hhandler _ _
  · exact hhandler _ _
  · exact hhandler _ _

end Endpoint

namespace App

/-- All endpoints are steady. -/
def Steady (app : App) : Prop :=
  ∀ e ∈ app.endpoints, e.Steady

/-- Serves requests one after the other. -/
def run (app : App) : World → List Arrival → Except Failure (List Visit)
  | _, [] => .ok []
  | w, a :: rest => do
    let (x, after) ← app.serve a.request (w.meet a)
    return ⟨a.request, w.meet a, x, after⟩ :: (← run app after rest)

/-- The world that a run leaves. -/
def lastWorld (w : World) : List Visit → World
  | [] => w
  | v :: rest => lastWorld v.after rest

/-- The clock comes to stand where it cannot be read, at the latest when the request has been
handled. -/
def Stops (app : App) (req : Request) (w : World) : Prop :=
  Instant.last < w.now ∨
    ∃ admission d, app.decision req w = .ok admission ∧ app.deliver req admission = .ok d ∧
      Instant.last < (app.dispatch d (app.checked req w)).2.2.now

/-- What holds of the world between requests: the store is sound, its buckets are within their
bounds, and no sweep goes on. -/
structure Quiet (app : App) (w : World) : Prop where
  sound : w.store.health = .sound
  bounded : ∀ key, Limiter.Bounded app.gate.limiter (w.store.buckets.find? key)
  unswept : w.sweeps = []

variable {app : App} {req : Request} {w left : World} {x : Exchange} {admission : Admission}
  {d : Delivery} {a : Arrival} {arrivals : List Arrival} {visits : List Visit}

theorem steady_ofConfig (c : Config) {endpoints : List Endpoint}
    (steady : ∀ e ∈ endpoints, e.Steady) : (ofConfig c endpoints).Steady := by
  intro e he
  rcases List.mem_append.1 he with hbuiltin | hfurther
  · exact Endpoint.steady_builtin _ e hbuiltin
  · exact steady e hfurther

theorem Quiet.meet (quiet : app.Quiet w) (a : Arrival) : app.Quiet (w.meet a) :=
  ⟨quiet.sound, quiet.bounded, quiet.unswept⟩

/-- Having a delivery answered leaves the buckets alone. -/
theorem Steady.dispatch (steady : app.Steady) (d : Delivery) (unswept : w.sweeps = []) :
    (app.dispatch d w).2.2.store = w.store ∧ (app.dispatch d w).2.2.sweeps = [] ∧
      ((app.dispatch d w).2.1 = .error .halted → Instant.last < (app.dispatch d w).2.2.now) := by
  unfold App.dispatch
  cases hendpoint : app.endpointFor d with
  | none => exact ⟨rfl, unswept, fun halted => by cases halted⟩
  | some found =>
    obtain ⟨e, params⟩ := found
    obtain ⟨e', hmem, hmatch⟩ := List.exists_of_findSome?_eq_some hendpoint
    obtain ⟨params', -, hfound⟩ := Option.map_eq_some_iff.1 hmatch
    obtain ⟨rfl, rfl⟩ := Prod.mk.inj hfound
    exact steady e' hmem d params' w unswept

/-- Charging changes nothing but the store. -/
theorem eq_of_charge {elapsed : Span} (h : charge admission elapsed w = .ok left) :
    left = { w with store := left.store } := by
  unfold charge at h
  split at h
  · obtain rfl := Except.ok.inj h
    rfl
  · cases h
  · obtain rfl := Except.ok.inj h
    rfl

theorem sweeps_of_serve (steady : app.Steady) (unswept : w.sweeps = [])
    (served : app.serve req w = .ok (x, left)) : left.sweeps = [] := by
  rcases serve_cases served with ⟨-, -, -, rfl⟩ | ⟨admission, d, -, -, hhandle⟩
  · exact unswept
  · obtain ⟨endpoint, result, moved, response, hdispatch, -, hcharge, -⟩ := handle_cases hhandle
    obtain ⟨-, hsweeps, -⟩ := steady.dispatch (w := app.checked req w) d unswept
    rw [hdispatch] at hsweeps
    rw [eq_of_charge hcharge]
    exact hsweeps

/-! ### Failures -/

theorem error_of_respond {result : Except Failure Response} {e : Failure}
    (h : respond result = .error e) : e = .halted ∧ result = .error .halted := by
  unfold respond at h
  split at h
  · cases h
  · exact ⟨(Except.error.inj h).symm, rfl⟩
  · cases h

theorem error_of_charge {elapsed : Span} {e : Failure} (h : charge admission elapsed w = .error e) :
    e = .halted ∧ Instant.last < w.now := by
  refine ⟨?_, Int.not_le.1 fun hnow => ?_⟩
  · unfold charge at h
    split at h
    · cases h
    · exact (Except.error.inj h).symm
    · cases h
  · obtain ⟨charged, hcharge⟩ := exists_charge admission elapsed hnow
    rw [hcharge] at h
    cases h

/-- Serving a request fails only of a clock that cannot be read. -/
theorem stops_of_serve (steady : app.Steady) (unswept : w.sweeps = []) {e : Failure}
    (h : app.serve req w = .error e) : e = .halted ∧ app.Stops req w := by
  rw [serve_eq] at h
  split at h
  · next hdecision => exact ⟨(Except.error.inj h).symm, Or.inl (Gate.lt_of_judge hdecision)⟩
  · cases h
  · next admission hdecision =>
    split at h
    · cases h
    · next d hdeliver =>
      obtain ⟨-, -, hreadable⟩ := steady.dispatch (w := app.checked req w) d unswept
      have hstops : e = .halted ∧ Instant.last < (app.dispatch d (app.checked req w)).2.2.now := by
        rcases eq_error_or_exists_of_bind_eq_error h with hrespond | ⟨response, -, h⟩
        · obtain ⟨rfl, hresult⟩ := error_of_respond hrespond
          exact ⟨rfl, hreadable hresult⟩
        · rcases eq_error_or_exists_of_bind_eq_error h with hcharge | ⟨charged, -, hend⟩
          · exact error_of_charge hcharge
          · cases hend
      exact ⟨hstops.1, Or.inr ⟨admission, d, hdecision, hdeliver, hstops.2⟩⟩

/-- A run begins with its first request and goes on from the world that this leaves. -/
theorem run_cons_eq_ok (h : app.run w (a :: arrivals) = .ok visits) :
    ∃ v rest, v.request = a.request ∧ v.before = w.meet a ∧
      app.serve v.request v.before = .ok (v.exchange, v.after) ∧
      app.run v.after arrivals = .ok rest ∧ visits = v :: rest := by
  obtain ⟨⟨x, after⟩, hserve, h⟩ := exists_of_bind_eq_ok h
  obtain ⟨rest, hrest, hend⟩ := exists_of_bind_eq_ok h
  exact ⟨⟨a.request, w.meet a, x, after⟩, rest, rfl, rfl, hserve, hrest, (Except.ok.inj hend).symm⟩

/-- A run that fails does so at a request at which the clock comes to stand where it cannot be
read. -/
theorem stops_of_run (steady : app.Steady) (unswept : w.sweeps = []) {e : Failure}
    (h : app.run w arrivals = .error e) :
    e = .halted ∧ ∃ front a back visits, arrivals = front ++ a :: back ∧
      app.run w front = .ok visits ∧ app.Stops a.request ((lastWorld w visits).meet a) := by
  -- on the arrivals, with the world in which the first of them is met
  induction arrivals generalizing w with
  | nil => cases h
  | cons a rest ih =>
    rcases eq_error_or_exists_of_bind_eq_error h with hserve | ⟨⟨x, after⟩, hserve, h⟩
    · obtain ⟨hhalted, hstops⟩ := stops_of_serve (w := w.meet a) steady unswept hserve
      exact ⟨hhalted, [], a, rest, [], rfl, rfl, hstops⟩
    · rcases eq_error_or_exists_of_bind_eq_error h with hrest | ⟨visits, -, hend⟩
      · obtain ⟨hhalted, front, b, back, visits, rfl, hfront, hstops⟩ :=
          ih (sweeps_of_serve (w := w.meet a) steady unswept hserve) hrest
        refine ⟨hhalted, a :: front, b, back, ⟨a.request, w.meet a, x, after⟩ :: visits,
          rfl, ?_, hstops⟩
        rw [run, hserve]
        simp only [bind, Except.bind, hfront]
        rfl
      · cases hend

end App

end Turnstile
