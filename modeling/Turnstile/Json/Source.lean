import Turnstile.Data.Source
import Turnstile.Json.Value

/-!
# Typed values from JSON

JSON is read without any leniency: every type has its own kind of value. A record may also be an
array of its fields in order, and a name may be the key of an object that holds `null` alone.

## Main definitions

- `Json.content?` — the tree that a JSON value means
- the `Source` instance of `Json`
-/

namespace Turnstile.Json

/-- The natural number of at most `limit` that a value is. -/
def bounded? (limit : Nat) (v : Json) : Option Nat := do
  let n ← v.nat?
  if n ≤ limit then return n else none

/-- The members of an object, all of whose keys have to be texts. -/
def members? : Json → Option (List (String × Json))
  | .object members => members.mapM fun (key, value) => key.map (·, value)
  | _ => none

/-- The name that a value stands for. -/
def variant? : Json → Option String
  | .text s => some s
  | .object [(some key, .null)] => some key
  | _ => none

/-- The parts of a record. -/
def fields? : Json → Option (Fields Json)
  | .array items => some (.positional items)
  | v => v.members?.map .named

/-- The number that a spelling means. -/
def numberContent (digits : String) : Data :=
  match digits.toInt? with
  | some n => .int n
  | none => .real

mutual

/-- The tree that a value means. -/
def content? : Json → Option Data
  | .null => some .null
  | .bool b => some (.bool b)
  | .number digits => some (numberContent digits)
  | .text s => some (.text s)
  | .mangled => none
  | .array items => (contents? items).map .list
  | .object members => (memberContents? members).map .map

/-- The trees that items mean. -/
def contents? : List Json → Option (List Data)
  | [] => some []
  | v :: rest => do
    return (← content? v) :: (← contents? rest)

/-- The entries that members mean. -/
def memberContents? : List (Option String × Json) → Option (List (Data × Data))
  | [] => some []
  | (key, v) :: rest => do
    return (.text (← key), ← content? v) :: (← memberContents? rest)

end

instance : Source Json where
  text? := Json.text?
  bool? := Json.bool?
  nat? := bounded?
  optional? := fun v => some (match v with
    | .null => none
    | w => some w)
  items? := Json.items?
  variant? := fun _ => variant?
  fields? := fields?
  entries? := members?
  content? := content?

mutual

/-- The JSON value of a tree; keys that are no texts are left out, and so are fractions. -/
def ofData : Data → Json
  | .null => .null
  | .bool b => .bool b
  | .int n => .number (toString n)
  | .real => .null
  | .text s => .text s
  | .list items => .array (ofItems items)
  | .map entries => .object (ofEntries entries)

/-- The JSON values of trees. -/
def ofItems : List Data → List Json
  | [] => []
  | d :: rest => ofData d :: ofItems rest

/-- The members of an object. -/
def ofEntries : List (Data × Data) → List (Option String × Json)
  | [] => []
  | (.text key, d) :: rest => (some key, ofData d) :: ofEntries rest
  | _ :: rest => ofEntries rest

end

end Turnstile.Json
