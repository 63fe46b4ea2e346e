import Turnstile.Text.Quoted

/-!
# Outlines

An outline shows a value to somebody who maintains the gateway: records with their fields, texts in
quotes, lists. What must not be shown is left out when the outline is made.

## Main definitions

- `Outline` — the outline of a value
- `Outline.render` — its text
-/

namespace Turnstile

/-- The outline of a value. -/
inductive Outline where
  | plain (text : String)
  | quoted (text : String)
  | record (name : String) (fields : List (String × Outline))
  | wrapped (name : String) (inner : Outline)
  | list (items : List Outline)
  | set (items : List Outline)
  | map (entries : List (String × Outline))

namespace Outline

/-- The outline of something that may be missing. -/
def option {α : Type} (f : α → Outline) : Option α → Outline
  | some a => .wrapped "Some" (f a)
  | none => .plain "None"

/-- The outline of a truth value. -/
def bool (b : Bool) : Outline := .plain (if b then "true" else "false")

/-- The outline of a number. -/
def nat (n : Nat) : Outline := .plain (toString n)

/-- What is shown in place of a secret. -/
def redacted : Outline := .quoted "[REDACTED]"

mutual

/-- The text of an outline. -/
def chars : Outline → List Char
  | .plain text => text.toList
  | .quoted text => Text.quoted text
  | .record name fields => name.toList ++ " \x7b ".toList ++ fieldChars fields ++ " \x7d".toList
  | .wrapped name inner => name.toList ++ '(' :: inner.chars ++ [')']
  | .list items => '[' :: itemChars items ++ [']']
  | .set items => '\x7b' :: itemChars items ++ ['\x7d']
  | .map entries => '\x7b' :: entryChars entries ++ ['\x7d']

/-- Fields with commas between them. -/
def fieldChars : List (String × Outline) → List Char
  | [] => []
  | [(name, value)] => name.toList ++ ": ".toList ++ value.chars
  | (name, value) :: rest =>
    name.toList ++ ": ".toList ++ value.chars ++ ", ".toList ++ fieldChars rest

/-- Items with commas between them. -/
def itemChars : List Outline → List Char
  | [] => []
  | [item] => item.chars
  | item :: rest => item.chars ++ ", ".toList ++ itemChars rest

/-- Entries with commas between them. -/
def entryChars : List (String × Outline) → List Char
  | [] => []
  | [(key, value)] => Text.quoted key ++ ": ".toList ++ value.chars
  | (key, value) :: rest =>
    Text.quoted key ++ ": ".toList ++ value.chars ++ ", ".toList ++ entryChars rest

end

/-- The text of an outline. -/
def render (o : Outline) : String := String.ofList o.chars

end Outline

end Turnstile
