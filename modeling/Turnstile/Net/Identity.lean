import Turnstile.Failure
import Turnstile.Net.Form
import Turnstile.Net.Uri

/-!
# Passing an identity on

A verified user is passed on to handlers in one query parameter. Whatever a client wrote into that
parameter is taken out first, in whichever way it was spelled.

## Main definitions

- `Uri.pairs` — the pairs of a target's query
- `Uri.withUser` — a target that carries the user, and nobody else, in a parameter
-/

namespace Turnstile.Uri

/-- The pairs of the query in order; without a query there are none. -/
def pairs (u : Uri) : List (String × String) :=
  Form.parse ((u.query.getD "").toList)

/-- The pairs that a target is to carry: those of the client under other names, then the user. -/
def pairsWithUser (u : Uri) (param : String) (user : Option String) : List (String × String) :=
  (u.pairs.filter fun pair => pair.1 ≠ param) ++ (user.map ((param, ·))).toList

/-- The query for a list of pairs: none for an empty one. -/
def queryOf (pairs : List (String × String)) : Option String :=
  match Form.render pairs with
  | [] => none
  | cs => some (String.ofList cs)

/-- A target with another query. A target that is an authority alone has no place for one. -/
def withQuery (u : Uri) (query : Option String) : Except Failure Uri :=
  if u.authority.isSome ∧ u.scheme.isNone then .error (.internal .schemeMissing)
  else .ok { u with rawPath := u.path, query := query }

/-- The target that carries `user` in a parameter and nothing that the client put there; none if it
can stay as it is. -/
def withUser (u : Uri) (param : String) (user : Option String) : Except Failure (Option Uri) :=
  if user.isNone ∧ !(u.pairs.any fun pair => pair.1 = param) then .ok none
  else do return some (← u.withQuery (queryOf (u.pairsWithUser param user)))

end Turnstile.Uri
