import Turnstile.App.Service
import Turnstile.Proofs.Config.Validation

/-!
# The policies of an accepted configuration

The policies of routes are set one after the other over those of the built-in endpoints, and what is
set later replaces what was set before. Validation lets no pattern come twice, so of a list of
routes that it accepts no route ever replaces another one, and the order of the list does not
matter.

## Main definitions

- `Governs` — the policy that a pattern is under, said without an order

## Main statements

- `Registry.find?_apply_of_mem`, `Registry.find?_apply_of_forall_ne` — looking up after routes have
  been set
- `Registry.find?_builtin` — the policies of the built-in endpoints
- `App.effective_policies` — the policies of an accepted configuration
-/

namespace Turnstile

namespace Registry

variable {registry : Registry} {routes : List Route} {pattern : String}

/-- Setting the policy of a pattern changes what is found under it and no other. -/
theorem find?_register (registry : Registry) (route : Route) (pattern : String) :
    (registry.register route).find? pattern =
      if route.pattern = pattern then some route.policy else registry.find? pattern := by
  rw [register, find?, find?, List.find?_append]
  by_cases hpattern : route.pattern = pattern
  · have hreplaced : (registry.routes.filter fun other => other.pattern ≠ route.pattern).find?
        (fun other => other.pattern = pattern) = none := by
      rw [List.find?_eq_none]
      intro other hother
      have hne := (List.mem_filter.1 hother).2
      simpa [hpattern] using hne
    rw [hreplaced, Option.none_or, if_pos hpattern]
    simp [hpattern]
  · have hkept : (registry.routes.filter fun other => other.pattern ≠ route.pattern).find?
        (fun other => other.pattern = pattern) = registry.routes.find? fun other =>
          other.pattern = pattern := by
      rw [List.find?_filter]
      congr 1
      funext other
      by_cases hother : other.pattern = pattern
      · simp [hother, Ne.symm hpattern]
      · simp [hother]
    rw [hkept, if_neg hpattern]
    simp [hpattern]

theorem find?_apply_of_forall_ne (h : ∀ route ∈ routes, route.pattern ≠ pattern) :
    (registry.apply routes).find? pattern = registry.find? pattern := by
  induction routes generalizing registry with
  | nil => rfl
  | cons route rest ih =>
    obtain ⟨hroute, hrest⟩ := List.forall_mem_cons.1 h
    rw [apply, List.foldl_cons]
    exact (ih hrest).trans ((find?_register registry route pattern).trans (if_neg hroute))

/-- Of routes with different patterns each has its own policy in the end. -/
theorem find?_apply_of_mem (hnodup : (routes.map (·.pattern)).Nodup) {route : Route}
    (hmem : route ∈ routes) :
    (registry.apply routes).find? route.pattern = some route.policy := by
  induction routes generalizing registry with
  | nil => cases hmem
  | cons first rest ih =>
    rw [List.map_cons, List.nodup_cons] at hnodup
    rw [apply, List.foldl_cons]
    rcases List.mem_cons.1 hmem with rfl | hrest
    · have hdifferent : ∀ other ∈ rest, other.pattern ≠ route.pattern := by
        intro other hother heq
        exact hnodup.1 (List.mem_map.2 ⟨other, hother, heq⟩)
      refine (find?_apply_of_forall_ne hdifferent).trans ?_
      rw [find?_register, if_pos rfl]
    · exact ih hnodup.2 hrest

theorem find?_builtin (pattern : String) :
    builtin.find? pattern =
      if "/whoami" = pattern then some (({} : Policy).requireUserFor [.always])
      else if "/health" = pattern then some .unlimited
      else if "/token" = pattern then some .limitedByAddress
      else none := by
  rw [builtin, apply, List.foldl_cons, List.foldl_cons, List.foldl_cons, List.foldl_nil,
    find?_register, find?_register, find?_register]
  rfl

end Registry

/-- The policy that a matched pattern is under: that of a configured route, else that of a built-in
endpoint, and else the one that requires an api token. The last is also the policy where no pattern
is matched. -/
inductive Governs (routes : List Route) : Option String → Policy → Prop
  | configured {route : Route} (mem : route ∈ routes) :
      Governs routes (some route.pattern) route.policy
  | token (free : ∀ route ∈ routes, route.pattern ≠ "/token") :
    Governs routes (some "/token") .limitedByAddress
  | health (free : ∀ route ∈ routes, route.pattern ≠ "/health") :
    Governs routes (some "/health") .unlimited
  | whoami (free : ∀ route ∈ routes, route.pattern ≠ "/whoami") :
    Governs routes (some "/whoami") (({} : Policy).requireUserFor [.always])
  | other {pattern : String} (free : ∀ route ∈ routes, route.pattern ≠ pattern)
    (foreign : pattern ∉ ["/token", "/health", "/whoami"]) : Governs routes (some pattern) {}
  | unmatched : Governs routes none {}

namespace Governs

variable {routes routes' : List Route} {matched : Option String} {policy : Policy}

/-- With routes set over the built-in endpoints, a pattern comes under the policy that governs
it. -/
theorem lookup_eq (hnodup : (routes.map (·.pattern)).Nodup) (h : Governs routes matched policy) :
    (Registry.builtin.apply routes).lookup matched = policy := by
  have hbuiltin : ∀ {pattern : String}, (∀ route ∈ routes, route.pattern ≠ pattern) →
      (Registry.builtin.apply routes).lookup (some pattern) =
        (Registry.builtin.find? pattern).getD {} := by
    intro pattern hfree
    rw [Registry.lookup, Option.bind_some, Registry.find?_apply_of_forall_ne hfree]
  cases h with
  | configured mem =>
    rw [Registry.lookup, Option.bind_some, Registry.find?_apply_of_mem hnodup mem, Option.getD_some]
  | token free => rw [hbuiltin free]; rfl
  | health free => rw [hbuiltin free]; rfl
  | whoami free => rw [hbuiltin free]; rfl
  | other free foreign =>
    rw [hbuiltin free, Registry.find?_builtin]
    simp only [List.mem_cons, List.not_mem_nil, or_false, not_or] at foreign
    obtain ⟨htoken, hhealth, hwhoami⟩ := foreign
    rw [if_neg (Ne.symm hwhoami), if_neg (Ne.symm hhealth), if_neg (Ne.symm htoken)]
    rfl
  | unmatched => rfl

theorem exists_governs (routes : List Route) (matched : Option String) :
    ∃ policy, Governs routes matched policy := by
  cases matched with
  | none => exact ⟨_, .unmatched⟩
  | some pattern =>
    by_cases hroute : ∃ route ∈ routes, route.pattern = pattern
    · obtain ⟨route, hmem, rfl⟩ := hroute
      exact ⟨_, .configured hmem⟩
    · have hfree : ∀ route ∈ routes, route.pattern ≠ pattern :=
        fun route hmem heq => hroute ⟨route, hmem, heq⟩
      by_cases hbuiltin : pattern ∈ ["/token", "/health", "/whoami"]
      · simp only [List.mem_cons, List.not_mem_nil, or_false] at hbuiltin
        rcases hbuiltin with rfl | rfl | rfl
        · exact ⟨_, .token hfree⟩
        · exact ⟨_, .health hfree⟩
        · exact ⟨_, .whoami hfree⟩
      · exact ⟨_, .other hfree hbuiltin⟩

theorem of_perm (order : routes'.Perm routes) (h : Governs routes matched policy) :
    Governs routes' matched policy := by
  have hfree : ∀ {pattern : String}, (∀ route ∈ routes, route.pattern ≠ pattern) →
      ∀ route ∈ routes', route.pattern ≠ pattern := fun hroutes route hmem =>
        hroutes route (order.mem_iff.1 hmem)
  cases h with
  | configured mem => exact .configured (order.mem_iff.2 mem)
  | token free => exact .token (hfree free)
  | health free => exact .health (hfree free)
  | whoami free => exact .whoami (hfree free)
  | other free foreign => exact .other (hfree free) foreign
  | unmatched => exact .unmatched

/-- The built-in endpoints and the default do not contradict themselves, so a policy does only if a
route does. -/
theorem consistent
    (hroutes : ∀ route ∈ routes, ¬(route.policy.byAddress = true ∧ route.policy.tokenFree = true))
    (h : Governs routes matched policy) : ¬(policy.byAddress = true ∧ policy.tokenFree = true) := by
  cases h with
  | configured mem => exact hroutes _ mem
  | token free => decide
  | health free => decide
  | whoami free => decide
  | other free foreign => decide
  | unmatched => decide

end Governs

namespace App

/-- **The policies of an accepted configuration.** Take a configuration that validation accepts. No
two of its routes have the same pattern. Whatever pattern is looked up in its gate, or none, the
gate answers with the policy that governs the pattern: that of the route with exactly this pattern,
else that of the built-in endpoint, else the one that requires an api token. No policy is both
limited by address and free of tokens. With its routes in any other order the configuration is
accepted as well, and the gate answers the same. -/
theorem effective_policies (c : Config) (accepted : c.validate = .ok ()) :
    (c.routes.map (·.pattern)).Nodup ∧
    (∀ matched policy, (gateOf c).policies.lookup matched = policy ↔
      Governs c.routes matched policy) ∧
    (∀ matched, ¬(((gateOf c).policies.lookup matched).byAddress = true ∧
      ((gateOf c).policies.lookup matched).tokenFree = true)) ∧
    ∀ routes, routes.Perm c.routes →
      { c with routes := routes }.validate = .ok () ∧
        ∀ matched, (gateOf { c with routes := routes }).policies.lookup matched =
          (gateOf c).policies.lookup matched := by
  obtain ⟨hserver, hauth, hlimit, hstorage, hroutes⟩ := Config.validate_eq_ok_iff.1 accepted
  obtain ⟨hvalid, hnodup, -⟩ := Config.validateRoutes_eq_ok_iff.1 hroutes
  have hlookup : ∀ matched, Governs c.routes matched ((gateOf c).policies.lookup matched) := by
    intro matched
    obtain ⟨policy, hpolicy⟩ := Governs.exists_governs c.routes matched
    exact (hpolicy.lookup_eq hnodup).symm ▸ hpolicy
  refine ⟨hnodup, fun matched policy => ⟨?_, Governs.lookup_eq hnodup⟩, fun matched => ?_,
    fun routes order => ?_⟩
  · rintro rfl
    exact hlookup matched
  · exact (hlookup matched).consistent fun route hmem =>
      (Config.validateRoute_eq_ok_iff.1 (hvalid route hmem)).2
  · have horder := Config.validateRoutes_of_perm order hroutes
    obtain ⟨-, hnodup', -⟩ := Config.validateRoutes_eq_ok_iff.1 horder
    refine ⟨Config.validate_eq_ok_iff.2 ⟨hserver, hauth, hlimit, hstorage, horder⟩,
      fun matched => ?_⟩
    exact ((hlookup matched).of_perm order).lookup_eq hnodup'

/-- A configuration that opens a built-in endpoint, leaves two as they are, and has a route of its
own. -/
def opened : Config :=
  { routes := [⟨"/posts/\x7bid\x7d", { userFor := MethodSet.ofList [.put, .delete] }⟩,
    ⟨"/whoami", .unlimited⟩] }

/-- In either order of its routes, these are its policies. -/
theorem opened_policies :
    opened.validate = .ok () ∧
      (∀ routes, routes.Perm opened.routes → { opened with routes := routes }.validate = .ok () ∧
        (gateOf { opened with routes := routes }).policies.lookup (some "/whoami") = .unlimited ∧
        (gateOf { opened with routes := routes }).policies.lookup (some "/token") =
          .limitedByAddress ∧
        (gateOf { opened with routes := routes }).policies.lookup (some "/posts") = {}) := by
  have hvalid : opened.validate = .ok () := by rfl
  obtain ⟨-, hgoverns, -, horder⟩ := effective_policies opened hvalid
  have hwhoami : (⟨"/whoami", .unlimited⟩ : Route) ∈ opened.routes := by decide
  refine ⟨hvalid, fun routes order => ?_⟩
  obtain ⟨haccepted, hsame⟩ := horder routes order
  refine ⟨haccepted, ?_, ?_, ?_⟩
  · rw [hsame, hgoverns]
    exact .configured hwhoami
  · rw [hsame, hgoverns]
    exact .token (by decide)
  · rw [hsame, hgoverns]
    exact .other (by decide) (by decide)

end App

end Turnstile
