/-!
# JSON values

A JSON document as data. Members of an object keep their order and may repeat, numbers keep the
text they are spelled with, and a string literal that spells no Unicode text (it holds half a
surrogate pair or malformed UTF-8) is told apart from every text.

## Main definitions

- `Json` — a JSON value
- `Json.ofNat`, `Json.ofOption` — values from data
- `Json.member?`, `Json.nat?` — looking into a value
-/

namespace Turnstile

/-- A JSON value. The key of a member is `none` if its literal spells no text. -/
inductive Json where
  | null
  | bool (b : Bool)
  | number (digits : String)
  | text (s : String)
  | mangled
  | array (items : List Json)
  | object (members : List (Option String × Json))
deriving Inhabited

namespace Json

/-- The value of a natural number. -/
def ofNat (n : Nat) : Json := .number (toString n)

/-- The value of an optional thing, `null` for none. -/
def ofOption {α : Type} (f : α → Json) : Option α → Json
  | some a => f a
  | none => .null

/-- An object from its members. -/
def ofMembers (members : List (String × Json)) : Json :=
  .object (members.map fun (key, value) => (some key, value))

/-- The first member with a key. -/
def member? (v : Json) (key : String) : Option Json :=
  match v with
  | .object members => (members.find? fun m => m.1 == some key).map (·.2)
  | _ => none

/-- The text of a string. -/
def text? : Json → Option String
  | .text s => some s
  | _ => none

/-- The truth value. -/
def bool? : Json → Option Bool
  | .bool b => some b
  | _ => none

/-- The items of an array. -/
def items? : Json → Option (List Json)
  | .array items => some items
  | _ => none

/-- The number, if it is spelled as a natural number. -/
def nat? : Json → Option Nat
  | .number digits => digits.toNat?
  | _ => none

end Json

end Turnstile
