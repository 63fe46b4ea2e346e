import Turnstile.Config.Validation

/-!
# What accepted configurations promise

A list of routes is accepted if each route is and no pattern comes twice, in whatever order they
stand.

Validation counts milliseconds in 64 bits, and the limiter counts nanoseconds. A number that is cut
off at 64 bits is never more than the number itself, so what validation asks for holds for the
limiter as well: by the age at which a bucket is swept, ticks have passed that are worth the
capacity.

## Main statements

- `Config.validate_eq_ok_iff`, `Config.validateRoutes_eq_ok_iff` — the rules for a configuration and
  its routes
- `Config.RateLimit.validate_eq_ok_iff` — the rules for limiting, all at once
- `Config.RateLimit.capacity_le_of_validate` — what a bucket regains before it is swept
- `Config.RateLimit.validate_of_le` — a greater age is accepted as well
-/

namespace Turnstile.Config

theorem refuseIf_bind_eq_ok_iff {broken : Bool} {rule : Invalid} {rest : Except Invalid Unit} :
    (refuseIf broken rule >>= fun _ => rest) = .ok () ↔ broken = false ∧ rest = .ok () := by
  cases broken <;> simp [refuseIf, bind, Except.bind]

theorem refuseIf_eq_ok_iff {broken : Bool} {rule : Invalid} :
    refuseIf broken rule = .ok () ↔ broken = false := by
  cases broken <;> simp [refuseIf]

theorem bind_eq_ok_iff {first rest : Except Invalid Unit} :
    (first >>= fun _ => rest) = .ok () ↔ first = .ok () ∧ rest = .ok () := by
  rcases first with rule | ⟨⟩
  · simp [bind, Except.bind]
  · simp [bind, Except.bind]

/-- A configuration is accepted if all its sections are. -/
theorem validate_eq_ok_iff {c : Config} :
    c.validate = .ok () ↔
      c.server.validate = .ok () ∧ c.auth.validate = .ok () ∧ c.rateLimit.validate = .ok () ∧
        c.storage.validate = .ok () ∧ validateRoutes [] c.routes = .ok () := by
  simp only [validate, bind_eq_ok_iff]

/-! ### Routes -/

theorem validateRoute_eq_ok_iff {r : Route} :
    validateRoute r = .ok () ↔
      r.pattern.toList.head? = some '/' ∧
      ¬(r.policy.byAddress = true ∧ r.policy.tokenFree = true) := by
  simp [validateRoute, refuseIf_bind_eq_ok_iff, refuseIf_eq_ok_iff]

/-- Routes are accepted after others if each of them is, and their patterns are all different and
new. -/
theorem validateRoutes_eq_ok_iff {seen : List String} {routes : List Route} :
    validateRoutes seen routes = .ok () ↔
      (∀ r ∈ routes, validateRoute r = .ok ()) ∧ (routes.map (·.pattern)).Nodup ∧
        ∀ r ∈ routes, r.pattern ∉ seen := by
  -- on the routes, as those before them are added to what was seen
  induction routes generalizing seen with
  | nil => simp [validateRoutes]
  | cons r rest ih =>
    have hpatterns : r.pattern ∉ rest.map (·.pattern) ↔ ∀ r' ∈ rest, r'.pattern ≠ r.pattern := by
      simp [List.mem_map]
    rw [validateRoutes, bind_eq_ok_iff, refuseIf_bind_eq_ok_iff, ih, List.map_cons,
      List.nodup_cons, hpatterns]
    simp only [List.mem_cons, not_or, forall_eq_or_imp, List.contains_eq_mem,
      decide_eq_false_iff_not]
    constructor
    · rintro ⟨hr, hseen, hrest, hnodup, hnew⟩
      exact ⟨⟨hr, hrest⟩, ⟨fun r' hr' => (hnew r' hr').1, hnodup⟩, hseen,
        fun r' hr' => (hnew r' hr').2⟩
    · rintro ⟨⟨hr, hrest⟩, ⟨hfirst, hnodup⟩, hseen, hnew⟩
      exact ⟨hr, hseen, hrest, hnodup, fun r' hr' => ⟨hfirst r' hr', hnew r' hr'⟩⟩

/-- The order of routes does not matter. -/
theorem validateRoutes_of_perm {routes routes' : List Route} (order : routes'.Perm routes)
    (accepted : validateRoutes [] routes = .ok ()) : validateRoutes [] routes' = .ok () := by
  obtain ⟨hroutes, hnodup, -⟩ := validateRoutes_eq_ok_iff.1 accepted
  refine validateRoutes_eq_ok_iff.2 ⟨fun r hr => hroutes r (order.mem_iff.1 hr), ?_,
    fun r _ => List.not_mem_nil⟩
  exact (order.map (·.pattern)).nodup_iff.2 hnodup

/-! ### Limits -/

theorem saturate64_le (n : Nat) : saturate64 n ≤ n :=
  Nat.min_le_left _ _

theorem saturate64_mono {m n : Nat} (h : m ≤ n) : saturate64 m ≤ saturate64 n := by
  unfold saturate64
  omega

namespace RateLimit

variable {r : RateLimit}

/-- Settings are accepted if nothing is zero and a bucket can be refilled before it is swept. -/
theorem validate_eq_ok_iff :
    r.validate = .ok () ↔
      r.capacityMs ≠ 0 ∧ r.intervalMs ≠ 0 ∧ r.perIntervalMs ≠ 0 ∧ r.tokenTimeoutSecs ≠ some 0 ∧
        r.cleanIntervalSecs ≠ 0 ∧ r.capacityMs.toNat ≤ r.refillBeforeSweep := by
  simp [validate, refuseIf_bind_eq_ok_iff, refuseIf_eq_ok_iff]

theorem toNat_pos_of_ne_zero {n : UInt64} (h : n ≠ 0) : 0 < n.toNat :=
  UInt64.lt_iff_toNat_lt.1 (UInt64.pos_iff_ne_zero.2 h)

theorem millisecond_pos : 0 < Span.millisecond := by
  decide

theorem capacity_pos (accepted : r.validate = .ok ()) : 0 < r.settings.capacity :=
  Nat.mul_pos (toNat_pos_of_ne_zero (validate_eq_ok_iff.1 accepted).1) millisecond_pos

theorem interval_pos (accepted : r.validate = .ok ()) : 0 < r.settings.interval :=
  Nat.mul_pos (toNat_pos_of_ne_zero (validate_eq_ok_iff.1 accepted).2.1) millisecond_pos

theorem perInterval_pos (accepted : r.validate = .ok ()) : 0 < r.settings.perInterval :=
  Nat.mul_pos (toNat_pos_of_ne_zero (validate_eq_ok_iff.1 accepted).2.2.1) millisecond_pos

/-! ### The age at which buckets are swept -/

/-- Cut off at 64 bits or not, no more is regained than the ticks of that age are worth. -/
theorem refillBeforeSweep_le (r : RateLimit) :
    r.refillBeforeSweep ≤
      r.staleAfterSecs.toNat * 1000 / r.intervalMs.toNat * r.perIntervalMs.toNat := by
  have hticks : saturate64 (r.staleAfterSecs.toNat * 1000) / r.intervalMs.toNat ≤
      r.staleAfterSecs.toNat * 1000 / r.intervalMs.toNat := Nat.div_le_div_right (saturate64_le _)
  exact Nat.le_trans (saturate64_le _) (Nat.mul_le_mul_right _ hticks)

/-- Counted in milliseconds or in nanoseconds, an age has the same number of ticks. -/
theorem staleAfter_div_interval (r : RateLimit) :
    r.staleAfter / r.settings.interval = r.staleAfterSecs.toNat * 1000 / r.intervalMs.toNat := by
  have hage : r.staleAfter = r.staleAfterSecs.toNat * 1000 * Span.millisecond := by
    rw [Nat.mul_assoc]
    rfl
  rw [hage]
  exact Nat.mul_div_mul_right _ _ millisecond_pos

/-- The ticks of the age at which a bucket is swept are worth the capacity. -/
theorem capacity_le_of_validate (accepted : r.validate = .ok ()) :
    r.settings.capacity ≤ r.settings.perInterval * (r.staleAfter / r.settings.interval) := by
  obtain ⟨-, -, -, -, -, hregained⟩ := validate_eq_ok_iff.1 accepted
  have hmillis := Nat.le_trans hregained r.refillBeforeSweep_le
  rw [staleAfter_div_interval]
  calc r.settings.capacity
      ≤ r.staleAfterSecs.toNat * 1000 / r.intervalMs.toNat * r.perIntervalMs.toNat *
      Span.millisecond :=
        Nat.mul_le_mul_right _ hmillis
    _ = r.settings.perInterval * (r.staleAfterSecs.toNat * 1000 / r.intervalMs.toNat) := by
        rw [Nat.mul_assoc, Nat.mul_comm]
        rfl

/-- Nothing keeps the age from being greater. -/
theorem validate_of_le (accepted : r.validate = .ok ()) {secs : UInt64}
    (h : r.staleAfterSecs ≤ secs) :
    { r with staleAfterSecs := secs }.validate = .ok () := by
  obtain ⟨hcapacity, hinterval, hperInterval, htimeout, hclean, hregained⟩ :=
    validate_eq_ok_iff.1 accepted
  refine validate_eq_ok_iff.2 ⟨hcapacity, hinterval, hperInterval, htimeout, hclean, ?_⟩
  have hage : r.staleAfterSecs.toNat * 1000 ≤ secs.toNat * 1000 := Nat.mul_le_mul_right _ h
  refine Nat.le_trans hregained (saturate64_mono (Nat.mul_le_mul_right _ ?_))
  exact Nat.div_le_div_right (saturate64_mono hage)

end RateLimit

end Turnstile.Config
