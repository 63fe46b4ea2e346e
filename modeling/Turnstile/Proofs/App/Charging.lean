import Turnstile.Proofs.App.Run

/-!
# What requests are charged

A request is charged once if it was handled for somebody, and not at all otherwise. It is charged
for the time that handling it took, counted in 64 bits, and whatever came of it. So what a subject
is charged in a run is the time for which its requests were handled.

## Main definitions

- `Exchange.charge?` — whom a request was charged to, and for how long
- `Visit.Rejected`, `Visit.Handled`, `Visit.Served` — what becomes of a request and of the buckets
- `Visit.calls` — what the limiter was asked for in the course of a request

## Main statements

- `App.rejected_or_served` — one request
- `App.charged_exactly_once` — runs from the empty store
-/

namespace Turnstile

/-- Whom a request was charged to, and for how long. -/
def Exchange.charge? (x : Exchange) : Option (String × Span) :=
  match x.decision, x.handling with
  | .ok admission, some h => admission.subject.map (·, h.elapsed)
  | _, _ => none

namespace Visit

/-- The time for which the request was handled on a subject's account. -/
def timeOn (subject : String) (v : Visit) : Span :=
  match v.exchange.charge? with
  | some (key, time) => if subject = key then time else 0
  | none => 0

/-- What the limiter was asked for in the course of a request: the check that the gate made, and a
charge when the request had been handled. -/
def calls (app : App) (v : Visit) : List Limiter.Event :=
  ((app.gate.call? (app.policyFor v.request) (v.request.forGate app.gate.settings)).map
    (⟨v.before.now, ·⟩)).toList ++
  (v.exchange.charge?.map fun (key, time) => ⟨v.after.now, .charge key time⟩).toList

/-- The request did not get to the endpoints: nothing was run, the response is that of a failure,
and no bucket has less in it. -/
structure Rejected (v : Visit) : Prop where
  unhandled : v.exchange.handling = none
  failed : ∃ e, v.exchange.response = .failed e
  nothing_run : v.after = { v.before with store := v.after.store }
  value_le : ∀ key, v.before.store.buckets.value key ≤ v.after.store.buckets.value key

/-- The request was admitted and handed on to the endpoints once, which left a world behind. -/
structure Handled (app : App) (v : Visit) (admission : Admission) (h : Handling) (moved : World) :
    Prop where
  admitted : app.decision v.request v.before = .ok admission
  decision : v.exchange.decision = .ok admission
  delivered : app.deliver v.request admission = .ok h.delivery
  handling : v.exchange.handling = some h
  dispatched : ∃ result,
    app.dispatch h.delivery (app.checked v.request v.before) = (h.endpoint, result, moved) ∧
    App.respond result = .ok v.exchange.response
  elapsed : h.elapsed = moved.reading - v.before.reading

/-- The request was handled, and its subject was charged once for the time that this took. All else
is as the endpoints left it. -/
structure Served (app : App) (v : Visit) (admission : Admission) (h : Handling) : Prop where
  handled : ∃ moved, v.Handled app admission h moved ∧
    v.after = { moved with store := v.after.store }
  charged : ∀ subject, admission.subject = some subject →
    v.after.store.buckets.value subject =
      max Budget.least ((app.checked v.request v.before).store.buckets.value subject -
        Budget.ofSpan h.elapsed) ∧
    ∀ key, key ≠ subject → v.after.store.buckets.find? key = v.before.store.buckets.find? key
  free : admission.subject = none → v.after.store = v.before.store

end Visit

namespace App

variable {app : App} {w left : World} {admission : Admission} {v : Visit} {start : World}
  {arrivals : List Arrival} {visits : List Visit} {elapsed : Span}

/-! ### Single requests -/

theorem store_of_charge (hsubject : admission.subject = none)
    (h : charge admission elapsed w = .ok left) : left.store = w.store := by
  unfold charge Gate.settle at h
  rw [hsubject] at h
  obtain rfl := Except.ok.inj h
  rfl

theorem perform_of_charge (settings : LimiterSettings) (sound : w.store.health = .sound)
    {subject : String} (hsubject : admission.subject = some subject)
    (h : charge admission elapsed w = .ok left) :
    ∃ value, (Limiter.Call.charge subject elapsed).perform settings w.store w.now =
      .ok (.left value, left.store) := by
  unfold charge Gate.settle at h
  rw [hsubject] at h
  by_cases hnow : w.now ≤ Instant.last
  · simp only [Limiter.useTime_of_sound sound hnow, bind, Except.bind, pure, Except.pure] at h
    obtain rfl := Except.ok.inj h
    rw [Limiter.Call.perform, Limiter.useTime_of_sound sound hnow]
    exact ⟨_, rfl⟩
  · simp only [Limiter.useTime_of_halted sound (Int.not_le.1 hnow), bind, Except.bind] at h
    cases h

/-- The gate leaves the store that its check leaves. -/
theorem leaves_checked (sound : w.store.health = .sound) {req : Request}
    (runs : app.decision req w ≠ .error .halted) :
    app.gate.Leaves (app.policyFor req) (req.forGate app.gate.settings) w.store w.now
      (app.checked req w).store :=
  Gate.leaves_of_judge sound rfl runs

theorem Quiet.checked (quiet : app.Quiet w) {req : Request}
    (runs : app.decision req w ≠ .error .halted) : app.Quiet (app.checked req w) := by
  obtain ⟨hsound, hbounded⟩ :=
    (leaves_checked quiet.sound runs).bounded ⟨quiet.sound, quiet.bounded⟩
  exact ⟨hsound, hbounded, quiet.unswept⟩

theorem value_of_charge (quiet : app.Quiet w) {subject : String}
    (hsubject : admission.subject = some subject) (h : charge admission elapsed w = .ok left) :
    left.store.buckets.value subject =
        max Budget.least (w.store.buckets.value subject - Budget.ofSpan elapsed) ∧
      ∀ key, key ≠ subject → left.store.buckets.find? key = w.store.buckets.find? key := by
  obtain ⟨value, hperform⟩ := perform_of_charge app.gate.limiter quiet.sound hsubject h
  obtain ⟨-, hfind⟩ := Limiter.find?_of_perform quiet.sound hperform
  refine ⟨?_, fun key hkey => ?_⟩
  · have hcapacity : w.store.buckets.value subject ≤ Budget.greatest := by
      unfold Buckets.value
      cases hfound : w.store.buckets.find? subject with
      | none => decide
      | some b => exact Int.le_trans (quiet.bounded subject b hfound).2 (Int.min_le_right _ _)
    have helapsed : 0 ≤ Budget.ofSpan elapsed := Budget.ofSpan_nonneg _
    have hleft : left.store.buckets.value subject =
        Budget.clamp (w.store.buckets.value subject - Budget.ofSpan elapsed) := by
      rw [Buckets.value, hfind, Limiter.Call.onBucket, if_pos rfl]
      rfl
    rw [hleft, Budget.clamp, Int.min_eq_left (by omega)]
  · rw [hfind, Limiter.Call.onBucket, if_neg hkey]

theorem Quiet.charge (quiet : app.Quiet w) (h : App.charge admission elapsed w = .ok left) :
    app.Quiet left := by
  have hsweeps : left.sweeps = [] := by
    rw [eq_of_charge h]
    exact quiet.unswept
  cases hsubject : admission.subject with
  | none =>
    have hstore := store_of_charge hsubject h
    exact ⟨by rw [hstore]; exact quiet.sound, by rw [hstore]; exact quiet.bounded, hsweeps⟩
  | some subject =>
    obtain ⟨value, hperform⟩ := perform_of_charge app.gate.limiter quiet.sound hsubject h
    obtain ⟨hsound, hbounded⟩ := Limiter.bounded_of_perform ⟨quiet.sound, quiet.bounded⟩ hperform
    exact ⟨hsound, hbounded, hsweeps⟩

/-- A request is turned away, or it is handled and charged for in the world that this leaves, in
which the store is still that of the gate. -/
theorem turned_or_handled (steady : app.Steady) (quiet : app.Quiet v.before)
    (served : app.serve v.request v.before = .ok (v.exchange, v.after)) :
    app.decision v.request v.before ≠ .error .halted ∧
      ((v.exchange.handling = none ∧ (∃ e, v.exchange.response = .failed e) ∧
          v.after = app.checked v.request v.before) ∨
        ∃ admission h moved, v.Handled app admission h moved ∧
          moved.store = (app.checked v.request v.before).store ∧ app.Quiet moved ∧
          charge admission h.elapsed moved = .ok v.after) := by
  rcases serve_cases served with ⟨runs, hhandling, hfailed, hafter⟩ |
    ⟨admission, d, hdecision, hdeliver, hhandle⟩
  · exact ⟨runs, Or.inl ⟨hhandling, hfailed, hafter⟩⟩
  · have runs : app.decision v.request v.before ≠ .error .halted := by
      rw [hdecision]
      nofun
    obtain ⟨endpoint, result, moved, response, hdispatch, hrespond, hcharge, hexchange⟩ :=
      handle_cases hhandle
    obtain ⟨hstore, hsweeps, -⟩ :=
      steady.dispatch (w := app.checked v.request v.before) d quiet.unswept
    rw [hdispatch] at hstore hsweeps
    have hquiet : app.Quiet moved := by
      obtain ⟨hsound, hbounded, -⟩ := quiet.checked runs
      rw [← hstore] at hsound hbounded
      exact ⟨hsound, hbounded, hsweeps⟩
    have hresponse : respond result = .ok v.exchange.response := by
      rw [hexchange]
      exact hrespond
    refine ⟨runs, Or.inr ⟨admission, ⟨d, endpoint, moved.reading - v.before.reading⟩, moved, ?_,
      hstore, hquiet, hcharge⟩⟩
    exact ⟨hdecision, by rw [hexchange], hdeliver, by rw [hexchange]; rfl,
      ⟨result, hdispatch, hresponse⟩, rfl⟩

theorem rejected_or_served (steady : app.Steady) (quiet : app.Quiet v.before)
    (served : app.serve v.request v.before = .ok (v.exchange, v.after)) :
    app.Quiet v.after ∧ (v.Rejected ∨ ∃ admission h, v.Served app admission h) := by
  obtain ⟨runs, hcases⟩ := turned_or_handled steady quiet served
  have hleaves := leaves_checked quiet.sound runs
  rcases hcases with ⟨hhandling, hfailed, hafter⟩ |
    ⟨admission, h, moved, handled, hstore, hquiet, hcharge⟩
  · have hquiet := quiet.checked runs
    have hvalue := hleaves.value_le ⟨quiet.sound, quiet.bounded⟩
    rw [← hafter] at hquiet hvalue
    refine ⟨hquiet, Or.inl ⟨hhandling, hfailed, ?_, hvalue⟩⟩
    rw [hafter]
    rfl
  · have hsubject := Gate.subject_of_judge handled.admitted
    refine ⟨hquiet.charge hcharge, Or.inr ⟨admission, h, ⟨moved, handled, eq_of_charge hcharge⟩,
      fun subject hadmitted => ?_, fun hadmitted => ?_⟩⟩
    · obtain ⟨hvalue, hothers⟩ := value_of_charge hquiet hadmitted hcharge
      rw [hstore] at hvalue hothers
      refine ⟨hvalue, fun key hkey => ?_⟩
      rw [hothers key hkey]
      refine hleaves.find?_eq quiet.sound ?_
      rw [← hsubject, hadmitted]
      exact fun heq => hkey (Option.some.inj heq).symm
    · rw [store_of_charge hadmitted hcharge, hstore]
      refine hleaves.eq_of_none ?_
      rw [← hsubject, hadmitted]

/-! ### What the limiter was asked for -/

theorem charge?_of_unhandled {x : Exchange} (h : x.handling = none) : x.charge? = none := by
  unfold Exchange.charge?
  rw [h]
  split
  · next hsome => cases hsome
  · rfl

theorem exists_of_charge? {x : Exchange} {subject : String} {time : Span}
    (h : x.charge? = some (subject, time)) :
    ∃ admission handling, x.decision = .ok admission ∧ x.handling = some handling ∧
      admission.subject = some subject ∧ handling.elapsed = time := by
  unfold Exchange.charge? at h
  split at h
  · next admission handling hdecision hhandling =>
    obtain ⟨key, hkey, heq⟩ := Option.map_eq_some_iff.1 h
    obtain ⟨rfl, rfl⟩ := Prod.mk.inj heq
    exact ⟨admission, handling, hdecision, hhandling, hkey, rfl⟩
  · cases h

theorem charge?_of_handled {x : Exchange} {h : Handling} (decision : x.decision = .ok admission)
    (handling : x.handling = some h) : x.charge? = admission.subject.map (·, h.elapsed) := by
  rw [Exchange.charge?, decision, handling]

/-- The limiter was asked for what `Visit.calls` says, and charged what `Visit.timeOn` says. -/
theorem exists_run_calls (steady : app.Steady) (quiet : app.Quiet v.before)
    (served : app.serve v.request v.before = .ok (v.exchange, v.after)) :
    ∃ steps, Limiter.run app.gate.limiter v.before.store (v.calls app) = .ok steps ∧
      Limiter.lastStore v.before.store steps = v.after.store ∧
      ∀ subject, Limiter.spent subject steps = Budget.ofSpan (v.timeOn subject) := by
  obtain ⟨runs, hcases⟩ := turned_or_handled steady quiet served
  obtain ⟨asked, hasked, hlast, hspent⟩ := (leaves_checked quiet.sound runs).exists_run
  -- where nobody is charged, the check is all that the limiter was asked for
  have huncharged (hcharge : v.exchange.charge? = none)
      (hafter : v.after.store = (app.checked v.request v.before).store) :
      ∃ steps, Limiter.run app.gate.limiter v.before.store (v.calls app) = .ok steps ∧
        Limiter.lastStore v.before.store steps = v.after.store ∧
        ∀ subject, Limiter.spent subject steps = Budget.ofSpan (v.timeOn subject) := by
    refine ⟨asked, ?_, hlast.trans hafter.symm, fun subject => ?_⟩
    · rw [Visit.calls, hcharge, Option.map_none, Option.toList_none, List.append_nil]
      exact hasked
    · rw [hspent, Visit.timeOn, hcharge]
      rfl
  rcases hcases with ⟨hhandling, -, hafter⟩ |
    ⟨admission, h, moved, handled, hstore, hquiet, hcharged⟩
  · exact huncharged (charge?_of_unhandled hhandling) (congrArg World.store hafter)
  · have hcharge := charge?_of_handled handled.decision handled.handling
    cases hsubject : admission.subject with
    | none =>
      rw [hsubject] at hcharge
      exact huncharged hcharge ((store_of_charge hsubject hcharged).trans hstore)
    | some subject =>
      rw [hsubject] at hcharge
      obtain ⟨value, hperform⟩ :=
        perform_of_charge app.gate.limiter hquiet.sound hsubject hcharged
      have hnow : moved.now = v.after.now := by
        rw [eq_of_charge hcharged]
      rw [hstore, ← hlast, hnow] at hperform
      have hpaid : Limiter.run app.gate.limiter (Limiter.lastStore v.before.store asked)
          [⟨v.after.now, .charge subject h.elapsed⟩] =
            .ok [⟨⟨v.after.now, .charge subject h.elapsed⟩, Limiter.lastStore v.before.store asked,
              .left value, v.after.store⟩] :=
        Limiter.run_cons_of_perform hperform rfl
      obtain ⟨hrun, hend⟩ := Limiter.run_append hasked hpaid
      refine ⟨_, ?_, hend, fun key => ?_⟩
      · rw [Visit.calls, hcharge]
        exact hrun
      · rw [Limiter.spent_append, hspent, Visit.timeOn, hcharge]
        simp only [Limiter.spent, Limiter.Step.amount, Option.map_some]
        split
        · omega
        · rfl

/-! ### Runs -/

/-- What single requests keep, and what they charge, summed up over a run. -/
theorem of_run (steady : app.Steady) (quiet : app.Quiet w) (h : app.run w arrivals = .ok visits) :
    (∀ v ∈ visits, v.Rejected ∨ ∃ admission h, v.Served app admission h) ∧
      ∃ steps, Limiter.run app.gate.limiter w.store (visits.flatMap (Visit.calls app)) = .ok steps ∧
        Limiter.lastStore w.store steps = (lastWorld w visits).store ∧
        ∀ subject, Limiter.spent subject steps =
          Budget.total (visits.map fun v => Budget.ofSpan (v.timeOn subject)) := by
  induction arrivals generalizing w visits with
  | nil =>
    obtain rfl := Except.ok.inj h
    exact ⟨fun v hv => absurd hv List.not_mem_nil, [], rfl, rfl, fun subject => rfl⟩
  | cons a rest ih =>
    -- the rest is a run from the world that the first visit leaves, and the charges of both add up
    obtain ⟨v, visits, -, hbefore, hserve, hrest, rfl⟩ := run_cons_eq_ok h
    have hstore : v.before.store = w.store := by
      rw [hbefore]
      rfl
    have hquiet : app.Quiet v.before := by
      rw [hbefore]
      exact quiet.meet a
    obtain ⟨hafter, hbecame⟩ := rejected_or_served steady hquiet hserve
    obtain ⟨steps, hsteps, hlast, hspent⟩ := exists_run_calls steady hquiet hserve
    obtain ⟨hall, later, hlater, hend, hsum⟩ := ih hafter hrest
    refine ⟨?_, steps ++ later, ?_⟩
    · intro u hu
      rcases List.mem_cons.1 hu with rfl | hu
      · exact hbecame
      · exact hall u hu
    · rw [← hlast, hstore] at hlater hend
      rw [hstore] at hsteps
      obtain ⟨hrun, hwhole⟩ := Limiter.run_append hsteps hlater
      refine ⟨hrun, ?_, fun subject => ?_⟩
      · rw [hwhole, hend]
        rfl
      · rw [Limiter.spent_append, hspent, hsum, List.map_cons, Budget.total_cons]

/-- **Every request is charged once, for the time that handling it took.** In a run from the empty
store, a request either does not get to the endpoints, and then no bucket has less in it; or it is
handed on once, and then its subject is charged once for the time that this took, whatever came of
it, while no other bucket changes. So what a subject is charged in the run is the time for which its
requests were handled. Times count as no more than 64 bits hold. A run ends unless the clock comes
to stand where it cannot be read. -/
theorem charged_exactly_once (c : Config) (endpoints : List Endpoint)
    (steady : ∀ e ∈ endpoints, e.Steady) (start : World) (fresh : start.store = Store.empty)
    (unswept : start.sweeps = []) (arrivals : List Arrival) :
    (∀ visits, (ofConfig c endpoints).run start arrivals = .ok visits →
      (∀ v ∈ visits, v.Rejected ∨ ∃ admission h, v.Served (ofConfig c endpoints) admission h) ∧
      ∃ steps,
        Limiter.run c.rateLimit.settings Store.empty
          (visits.flatMap (Visit.calls (ofConfig c endpoints))) = .ok steps ∧
        Limiter.lastStore Store.empty steps = (lastWorld start visits).store ∧
        ∀ subject, Limiter.spent subject steps =
          Budget.total (visits.map fun v => Budget.ofSpan (v.timeOn subject))) ∧
    ∀ e, (ofConfig c endpoints).run start arrivals = .error e →
      e = .halted ∧ ∃ front a back visits, arrivals = front ++ a :: back ∧
        (ofConfig c endpoints).run start front = .ok visits ∧
        (ofConfig c endpoints).Stops a.request ((lastWorld start visits).meet a) := by
  have hsteady := steady_ofConfig c steady
  have hquiet : (ofConfig c endpoints).Quiet start := by
    refine ⟨by rw [fresh]; rfl, fun key b hb => ?_, unswept⟩
    rw [fresh] at hb
    cases hb
  refine ⟨fun visits hrun => ?_, fun e hrun => stops_of_run hsteady unswept hrun⟩
  obtain ⟨hall, hcalls⟩ := of_run hsteady hquiet hrun
  rw [fresh] at hcalls
  exact ⟨hall, hcalls⟩

/-! ### Requests that take long -/

namespace LongEcho

/-- A configuration in which echoes are limited by address. -/
def config : Config where
  routes := [⟨"/echo", { byAddress := true }⟩]

/-- A request for an echo that takes some nanoseconds. -/
def arrival (time : String) : Arrival where
  request := ⟨"GET", ⟨none, none, "/echo", none⟩, [⟨Endpoint.workHeader, Utf8.encode time⟩],
    some (.v4 ⟨198, 51, 100, 7⟩)⟩
  now := 0

/-- The budget of the address that the requests come from. -/
def budget (w : World) : Int :=
  w.store.buckets.value "198.51.100.7"

/-- What became of a request: whether it was handled, what was charged, and the budget after the
check and in the end. -/
structure Entry where
  handled : Bool
  charge : Option (String × Span)
  checked : Int
  left : Int
deriving DecidableEq

def entry (v : Visit) : Entry where
  handled := v.exchange.handling.isSome
  charge := v.exchange.charge?
  checked := budget ((ofConfig config Endpoint.echo).checked v.request v.before)
  left := budget v.after

theorem exists_of_entries (times : List String) (entries : List Entry)
    (h : ((ofConfig config Endpoint.echo).run { now := 0 } (times.map arrival)).toOption.map
      (List.map entry) = some entries) :
    ∃ visits, (ofConfig config Endpoint.echo).run { now := 0 } (times.map arrival) = .ok visits ∧
      visits.map entry = entries := by
  cases hrun : (ofConfig config Endpoint.echo).run { now := 0 } (times.map arrival) with
  | error e =>
    rw [hrun] at h
    cases h
  | ok visits =>
    rw [hrun] at h
    exact ⟨visits, rfl, Option.some.inj h⟩

end LongEcho

/-- An echo of forty seconds is paid for, and leaves its address in debt. So the next one is
rejected. -/
theorem echo_charged_once :
    ∃ v u admission h, (ofConfig LongEcho.config Endpoint.echo).run { now := 0 }
        (["40000000000", "1"].map LongEcho.arrival) = .ok [v, u] ∧
      v.Served (ofConfig LongEcho.config Endpoint.echo) admission h ∧ u.Rejected ∧
      LongEcho.budget v.after = -10000000000 ∧ LongEcho.budget u.after = -10000000000 := by
  obtain ⟨visits, hrun, hentries⟩ := LongEcho.exists_of_entries ["40000000000", "1"]
    [⟨true, some ("198.51.100.7", 40000000000), 30000000000, -10000000000⟩,
      ⟨false, none, -10000000000, -10000000000⟩] (by decide +kernel)
  obtain ⟨v, rest, rfl, hv, hrest⟩ := List.map_eq_cons_iff.1 hentries
  obtain ⟨u, rest, rfl, hu, hrest⟩ := List.map_eq_cons_iff.1 hrest
  obtain rfl := List.map_eq_nil_iff.1 hrest
  obtain ⟨hall, -⟩ := (charged_exactly_once LongEcho.config Endpoint.echo Endpoint.steady_echo
    { now := 0 } rfl rfl _).1 _ hrun
  have hhandled : v.exchange.handling.isSome = true := congrArg LongEcho.Entry.handled hv
  have hunhandled : u.exchange.handling.isSome = false := congrArg LongEcho.Entry.handled hu
  rcases hall v (by simp) with hrejected | ⟨admission, h, hserved⟩
  · rw [hrejected.unhandled] at hhandled
    cases hhandled
  rcases hall u (by simp) with hrejected | ⟨_, _, hserved'⟩
  · exact ⟨v, u, admission, h, hrun, hserved, hrejected, congrArg LongEcho.Entry.left hv,
      congrArg LongEcho.Entry.left hu⟩
  · obtain ⟨moved, hhandled, -⟩ := hserved'.handled
    rw [hhandled.handling] at hunhandled
    cases hunhandled

/-- An echo that takes longer than 64 bits of nanoseconds hold is not paid for in full: the budget
stays above the least there is. -/
theorem echo_charged_less :
    ∃ v admission h, (ofConfig LongEcho.config Endpoint.echo).run { now := 0 }
        (["10000000000000000000"].map LongEcho.arrival) = .ok [v] ∧
      v.exchange.decision = .ok admission ∧ admission.subject = some "198.51.100.7" ∧
      v.exchange.handling = some h ∧ h.elapsed = 10000000000000000000 ∧
      LongEcho.budget v.after ≠ max Budget.least
        (LongEcho.budget ((ofConfig LongEcho.config Endpoint.echo).checked v.request v.before) -
          h.elapsed) := by
  obtain ⟨visits, hrun, hentries⟩ := LongEcho.exists_of_entries ["10000000000000000000"]
    [⟨true, some ("198.51.100.7", 10000000000000000000), 30000000000, -9223372006854775807⟩]
    (by decide +kernel)
  obtain ⟨v, rest, rfl, hv, hrest⟩ := List.map_eq_cons_iff.1 hentries
  obtain rfl := List.map_eq_nil_iff.1 hrest
  have hcharge : v.exchange.charge? = some ("198.51.100.7", 10000000000000000000) :=
    congrArg LongEcho.Entry.charge hv
  have hchecked : LongEcho.budget
      ((ofConfig LongEcho.config Endpoint.echo).checked v.request v.before) =
      30000000000 := congrArg LongEcho.Entry.checked hv
  have hleft : LongEcho.budget v.after = -9223372006854775807 := congrArg LongEcho.Entry.left hv
  obtain ⟨admission, h, hdecision, hhandling, hsubject, helapsed⟩ := exists_of_charge? hcharge
  refine ⟨v, admission, h, hrun, hdecision, hsubject, hhandling, helapsed, ?_⟩
  rw [hleft, hchecked, helapsed]
  decide

end App

end Turnstile
