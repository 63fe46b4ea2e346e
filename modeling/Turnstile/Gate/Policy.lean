import Turnstile.Data.Record

/-!
# Policies

A policy says how requests to one route are gated: whether they are limited by the caller's address
or by an api token, or not at all, and for which methods they have to name a user. Without any
setting an api token is required and no user.

## Main definitions

- `AuthMethod`, `MethodSet` — methods that require a user, and sets of them
- `Policy` — how a route is gated
- `Policy.requiresUser` — whether requests of a method have to name a user
- `Policy.read?`, `Policy.toData` — policies as data
-/

namespace Turnstile

/-- A method for which a policy can require a user; `always` stands for every method. -/
inductive AuthMethod where
  | get
  | post
  | put
  | head
  | delete
  | patch
  | always
deriving DecidableEq, Repr

namespace AuthMethod

/-- All methods, in the order in which they are listed. -/
def all : List AuthMethod := [.get, .post, .put, .head, .delete, .patch, .always]

/-- The name of a method. -/
def name : AuthMethod → String
  | .get => "GET"
  | .post => "POST"
  | .put => "PUT"
  | .head => "HEAD"
  | .delete => "DELETE"
  | .patch => "PATCH"
  | .always => "ALWAYS"

/-- The method with a name. -/
def ofName? (s : String) : Option AuthMethod :=
  all.find? fun m => m.name = s

/-- The method of a request, in any case of letters; not every method can be required a user for by
itself. -/
def ofRequest? (method : String) : Option AuthMethod :=
  (ofName? (String.ofList (method.toList.map Char.toUpper))).filter (· ≠ .always)

/-- Every method is listed. -/
theorem mem_all (m : AuthMethod) : m ∈ all := by
  cases m <;> decide

/-- A method is found by its name. -/
@[simp] theorem ofName?_name (m : AuthMethod) : ofName? m.name = some m := by
  cases m <;> decide

end AuthMethod

/-- A set of methods. -/
@[ext] structure MethodSet where
  has : AuthMethod → Bool

namespace MethodSet

/-- The set without methods. -/
def empty : MethodSet := ⟨fun _ => false⟩

/-- The set of the methods in a list. -/
def ofList (ms : List AuthMethod) : MethodSet := ⟨fun m => ms.contains m⟩

/-- The methods of a set in their order. -/
def toList (s : MethodSet) : List AuthMethod := AuthMethod.all.filter s.has

/-- The methods of either set. -/
def union (s t : MethodSet) : MethodSet := ⟨fun m => s.has m || t.has m⟩

theorem mem_toList {s : MethodSet} {m : AuthMethod} : m ∈ s.toList ↔ s.has m = true := by
  simp [toList, AuthMethod.mem_all]

/-- Listing a set and collecting the list gives the set back. -/
@[simp] theorem ofList_toList (s : MethodSet) : ofList s.toList = s := by
  ext m
  rw [Bool.eq_iff_iff]
  simp [ofList, mem_toList]

instance : DecidableEq MethodSet := fun s t =>
  decidable_of_iff (s.toList = t.toList) ⟨fun h => by rw [← ofList_toList s, h, ofList_toList],
    fun h => by rw [h]⟩

end MethodSet

/-- How requests to a route are gated. -/
structure Policy where
  /-- Limited by address; no api token is looked at. -/
  byAddress : Bool := false
  /-- No api token needed, and no limit. -/
  tokenFree : Bool := false
  /-- The methods that have to name a user. -/
  userFor : MethodSet := MethodSet.empty
deriving DecidableEq

namespace Policy

/-- A policy that limits by address. -/
def limitedByAddress : Policy := { byAddress := true }

/-- A policy that asks for nothing. -/
def unlimited : Policy := { tokenFree := true }

/-- Requires a user for more methods. -/
def requireUserFor (p : Policy) (ms : List AuthMethod) : Policy :=
  { p with userFor := p.userFor.union (MethodSet.ofList ms) }

/-- Whether requests with this method have to name a user. -/
def requiresUser (p : Policy) (method : String) : Bool :=
  p.userFor.has .always || (AuthMethod.ofRequest? method).any p.userFor.has

/-- The names of a policy's fields. -/
def fieldNames : List String :=
  ["by_address_not_token", "token_not_required", "require_user_auth_for"]

/-- The entries of a policy as data. -/
def toEntries (p : Policy) : List (String × Data) :=
  [("by_address_not_token", .bool p.byAddress), ("token_not_required", .bool p.tokenFree),
    ("require_user_auth_for", .list (p.userFor.toList.map fun m => .text m.name))]

/-- A policy as data. -/
def toData (p : Policy) : Data := .record p.toEntries

/-- Reads a method that a policy can name. -/
def readMethod? {σ : Type} [Source σ] (v : σ) : Option AuthMethod := do
  AuthMethod.ofName? (← Source.variant? (AuthMethod.all.map (·.name)) v)

/-- Reads a list of methods as a set. -/
def readMethods? {σ : Type} [Source σ] (v : σ) : Option MethodSet := do
  return MethodSet.ofList (← Record.list? readMethod? v)

/-- Reads a policy. -/
def read? {σ : Type} [Source σ] (v : σ) : Option Policy := do
  let fields ← Record.open? fieldNames v
  let byAddress ← Record.field? fields "by_address_not_token" Source.bool? false
  let tokenFree ← Record.field? fields "token_not_required" Source.bool? false
  let userFor ← Record.field? fields "require_user_auth_for" readMethods? MethodSet.empty
  return ⟨byAddress, tokenFree, userFor⟩

end Policy

end Turnstile
