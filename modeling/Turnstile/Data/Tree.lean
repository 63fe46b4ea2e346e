/-!
# Data trees

What a document means apart from how it is spelled: truth values, numbers, texts, lists and maps.
Configurations are written as trees and formats spell trees out.

## Main definitions

- `Data` — a tree
- `Data.record` — a map with texts as keys
-/

namespace Turnstile

/-- The meaning of a document. A number that is not whole is only known to be one. -/
inductive Data where
  | null
  | bool (b : Bool)
  | int (n : Int)
  | real
  | text (s : String)
  | list (items : List Data)
  | map (entries : List (Data × Data))
deriving Inhabited

namespace Data

/-- A natural number. -/
def nat (n : Nat) : Data := .int n

/-- An optional thing, `null` for none. -/
def option {α : Type} (f : α → Data) : Option α → Data
  | some a => f a
  | none => .null

/-- A map from names. -/
def record (entries : List (String × Data)) : Data :=
  .map (entries.map fun (name, value) => (.text name, value))

end Data

end Turnstile
