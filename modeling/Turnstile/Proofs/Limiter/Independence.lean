import Turnstile.Proofs.Limiter.Subject

/-!
# Subjects are independent

All subjects share one store, and a sweep goes over all of them at once. Still a subject cannot tell
whether there are others: whatever they ask for and however they are charged, its own calls get the
same answers, and its own bucket holds the same after each of them.

## Main definitions

- `Limiter.Call.Possible` — calls that do not reach back before the calendar

## Main statements

- `Limiter.exists_run_of_possible` — which runs end
- `Limiter.subjects_independent` — leaving out what is asked for others
-/

namespace Turnstile.Limiter

/-- A sweep reaches back to an instant of the calendar, unless its age is one that is refused. -/
def Call.Possible (now : Instant) : Call → Prop
  | .sweep staleAfter => staleAfter ≤ Span.longest → Instant.first ≤ now - (staleAfter : Int)
  | _ => True

variable {settings : LimiterSettings} {store : Store} {now : Instant} {call : Call}
  {events : List Event}

theorem exists_perform_of_possible (settings : LimiterSettings) (sound : store.health = .sound)
    (hnow : now ≤ Instant.last) (possible : call.Possible now) :
    ∃ outcome after, call.perform settings store now = .ok (outcome, after) := by
  cases call with
  | sweep staleAfter =>
    obtain ⟨after, hsweep⟩ := (exists_cleanup_iff sound hnow staleAfter).2 possible
    refine ⟨.swept, after, ?_⟩
    rw [Call.perform, hsweep]
    rfl
  | _ => exact exists_perform settings sound hnow rfl

/-- On a clock that can be read, a run ends if none of its sweeps reaches back before the
calendar. -/
theorem exists_run_of_possible (sound : store.health = .sound)
    (readable : ∀ e ∈ events, e.now ≤ Instant.last)
    (possible : ∀ e ∈ events, e.call.Possible e.now) :
    ∃ steps, run settings store events = .ok steps := by
  induction events generalizing store with
  | nil => exact ⟨[], rfl⟩
  | cons e rest ih =>
    obtain ⟨hnow, hreadable⟩ := List.forall_mem_cons.1 readable
    obtain ⟨hcall, hpossible⟩ := List.forall_mem_cons.1 possible
    obtain ⟨outcome, after, hperform⟩ := exists_perform_of_possible settings sound hnow hcall
    obtain ⟨steps, hrest⟩ := ih (find?_of_perform sound hperform).1 hreadable hpossible
    exact ⟨_, run_cons_of_perform hperform hrest⟩

/-- **Subjects are independent.** Whatever is asked of the limiter from the empty store on, with the
clock going any way it likes, leave out all that is asked for other subjects, and keep the sweeps
and the instants. If the whole run ends, so does what is left of it, and there every call on the
subject has the same answer and leaves the same bucket, and so does every sweep. The whole run ends
on a clock that can be read, if none of its sweeps reaches back before the calendar. -/
theorem subjects_independent (settings : LimiterSettings) (subject : String) (events : List Event) :
    ((∀ e ∈ events, e.now ≤ Instant.last ∧ e.call.Possible e.now) →
      ∃ steps, run settings Store.empty events = .ok steps) ∧
    ∀ steps, run settings Store.empty events = .ok steps →
      ∃ alone, run settings Store.empty
        (events.filter fun e => e.call.concerns subject) = .ok alone ∧
        alone.map (fun s => (s.toEvent, s.outcome, s.after.buckets.find? subject)) =
          (steps.filter fun s => s.call.concerns subject).map
            fun s => (s.toEvent, s.outcome, s.after.buckets.find? subject) := by
  constructor
  · intro h
    exact exists_run_of_possible rfl (fun e he => (h e he).1) fun e he => (h e he).2
  · intro steps hrun
    exact view_of_run_filter rfl rfl rfl hrun

/-- Two subjects in turn, one of them deep in debt. The clock goes back and forth, and the first
sweep removes only the bucket of the one in debt. -/
def crowd : List Event :=
  [⟨0, .check "a"⟩, ⟨1, .charge "b" 1000⟩, ⟨50, .charge "a" 95⟩, ⟨40, .check "b"⟩, ⟨55, .check "a"⟩,
    ⟨75, .sweep 30⟩, ⟨45, .check "b"⟩, ⟨56, .charge "a" 10⟩, ⟨90, .sweep 30⟩, ⟨91, .check "a"⟩]

theorem crowd_independent :
    ∃ steps alone, run { capacity := 100, interval := 10, perInterval := 10 }
      Store.empty crowd = .ok steps ∧
      run { capacity := 100, interval := 10, perInterval := 10 } Store.empty
        [⟨0, .check "a"⟩, ⟨50, .charge "a" 95⟩, ⟨55, .check "a"⟩, ⟨75, .sweep 30⟩,
          ⟨56, .charge "a" 10⟩, ⟨90, .sweep 30⟩, ⟨91, .check "a"⟩] = .ok alone ∧
      alone.map (fun s => (s.toEvent, s.outcome, s.after.buckets.find? "a")) =
        ((steps.filter fun s => s.call.concerns "a").map
          fun s => (s.toEvent, s.outcome, s.after.buckets.find? "a")) ∧
      alone.map (·.outcome) =
        [.verdict .success, .left 5, .verdict .success, .swept, .left (-5), .swept,
          .verdict .success] := by
  obtain ⟨hends, hsame⟩ :=
    subjects_independent { capacity := 100, interval := 10, perInterval := 10 } "a" crowd
  obtain ⟨steps, hrun⟩ := hends (by simp [crowd, Call.Possible]; decide)
  obtain ⟨alone, halone, hviews⟩ := hsame steps hrun
  refine ⟨steps, alone, hrun, halone, hviews, ?_⟩
  obtain rfl := Except.ok.inj halone
  decide +kernel

end Turnstile.Limiter
