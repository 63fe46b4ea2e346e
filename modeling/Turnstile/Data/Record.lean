import Turnstile.Data.Source

/-!
# Typed values from trees

A tree that has been resolved already is read by what its values are. An alternative is given by its
name, or by a map of one entry without content whose key is the name or its place among the names.

## Main definitions

- the `Source` instance of `Data`
-/

namespace Turnstile.Data

/-- Whether a value is without content. -/
def isVoid : Data → Bool
  | .null => true
  | .map [] => true
  | _ => false

/-- The name of an alternative. -/
def variant? (names : List String) : Data → Option String
  | .text s => some s
  | .map [(.text s, v)] => if v.isVoid then some s else none
  | .map [(.int n, v)] => if v.isVoid ∧ 0 ≤ n then names[n.toNat]? else none
  | _ => none

/-- The entries of a map whose keys are texts. -/
def entries? : Data → Option (List (String × Data))
  | .map entries => some (entries.filterMap fun
    | (.text key, v) => some (key, v)
    | _ => none)
  | _ => none

/-- The natural number of at most `limit` that a value is. -/
def bounded? (limit : Nat) : Data → Option Nat
  | .int n => if 0 ≤ n ∧ n ≤ limit then some n.toNat else none
  | _ => none

instance : Source Data where
  text?
    | .text s => some s
    | _ => none
  bool?
    | .bool b => some b
    | _ => none
  nat? := bounded?
  optional? := fun v => some (match v with
    | .null => none
    | w => some w)
  items?
    | .list items => some items
    | _ => none
  variant? := variant?
  fields? := fun v => v.entries?.map .named
  entries? := entries?
  content? := some

end Turnstile.Data
