import Turnstile.Gate.Policy

/-!
# Policies by route

Routes are known by their pattern, such as `/posts/{id}`. A registry holds the policy of each
pattern; all others have the default policy.

## Main definitions

- `Route` — a pattern and its policy
- `Registry` — the policies by pattern
- `Registry.register`, `Registry.lookup` — setting and finding a policy
- `Registry.apply` — setting the policies of a list of routes
-/

namespace Turnstile

/-- A route pattern and its policy. -/
structure Route where
  pattern : String
  policy : Policy
deriving DecidableEq

namespace Route

/-- A route as data: the fields of its policy stand beside the pattern. -/
def toData (r : Route) : Data :=
  .record (("pattern", .text r.pattern) :: r.policy.toEntries)

/-- Reads a route. Every entry but the pattern belongs to the policy. -/
def read? {σ : Type} [Source σ] (v : σ) : Option Route := do
  let entries ← Source.entries? v
  let fields ← Record.select? ["pattern"] entries
  let pattern ← Record.required? fields "pattern" Source.text?
  let others ← (entries.filter fun e => e.1 ≠ "pattern").mapM fun e => do
    return (e.1, ← Source.content? e.2)
  return ⟨pattern, ← Policy.read? (Data.record others)⟩

end Route

/-- The policies by pattern, each pattern once. -/
structure Registry where
  routes : List Route

namespace Registry

/-- A registry without policies of its own. -/
def empty : Registry := ⟨[]⟩

/-- The policy of a pattern, if one was set. -/
def find? (r : Registry) (pattern : String) : Option Policy :=
  (r.routes.find? fun route => route.pattern = pattern).map (·.policy)

/-- Sets the policy of a pattern. -/
def register (r : Registry) (route : Route) : Registry :=
  ⟨r.routes.filter (fun other => other.pattern ≠ route.pattern) ++ [route]⟩

/-- The policy for the pattern that a request matched, if it matched one. -/
def lookup (r : Registry) (pattern : Option String) : Policy :=
  (pattern.bind r.find?).getD {}

/-- The number of patterns. -/
def size (r : Registry) : Nat := r.routes.length

/-- Sets the policies of routes in order. -/
def apply (r : Registry) (routes : List Route) : Registry :=
  routes.foldl register r

end Registry

end Turnstile
