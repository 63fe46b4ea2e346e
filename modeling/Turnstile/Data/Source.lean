import Turnstile.Data.Tree

/-!
# Reading typed values

The formats that configurations and claims are read from differ in what they accept for a truth
value, a number or a text, and agree on how records are put together from those. A `Source` says
what one format accepts; records are read from any source.

A record is given by the names of its fields in order. Fields that are missing take their default,
a field given twice is refused, and fields with other names are ignored.

## Main definitions

- `Source` — what a format accepts
- `Record.open?` — the fields of a record that a value gives
- `Record.field?`, `Record.required?` — reading one of them
-/

namespace Turnstile

/-- The parts of a value that is to be a record. -/
inductive Fields (σ : Type) where
  | named (entries : List (String × σ))
  | positional (items : List σ)

/-- What values of a format can be read as; `none` always means that the format refuses. -/
class Source (σ : Type) where
  /-- A text. -/
  text? : σ → Option String
  /-- A truth value. -/
  bool? : σ → Option Bool
  /-- A natural number of at most a limit. -/
  nat? : Nat → σ → Option Nat
  /-- A thing that may be absent. -/
  optional? : σ → Option (Option σ)
  /-- A list. -/
  items? : σ → Option (List σ)
  /-- The name of an alternative, of which the known names are given in order. -/
  variant? : List String → σ → Option String
  /-- A record. -/
  fields? : σ → Option (Fields σ)
  /-- The entries of a map with texts as keys. -/
  entries? : σ → Option (List (String × σ))
  /-- The meaning of the whole value. -/
  content? : σ → Option Data

namespace Record

variable {σ α : Type}

/-- Whether no name occurs twice. -/
def distinct : List String → Bool
  | [] => true
  | name :: rest => !rest.contains name && distinct rest

/-- The entries with known names, each at most once. -/
def select? (names : List String) (entries : List (String × σ)) : Option (List (String × σ)) :=
  let known := entries.filter fun e => names.contains e.1
  if distinct (known.map (·.1)) then some known else none

/-- The fields that a value gives for a record with these names in order. -/
def open? [Source σ] (names : List String) (v : σ) : Option (List (String × σ)) := do
  match ← Source.fields? v with
  | .named entries => select? names entries
  | .positional items =>
    if items.length ≤ names.length then return names.zip items else none

/-- A field that has a default. -/
def field? (fields : List (String × σ)) (name : String) (read : σ → Option α) (default : α) :
    Option α :=
  match fields.lookup name with
  | some v => read v
  | none => some default

/-- A field that has to be given. -/
def required? (fields : List (String × σ)) (name : String) (read : σ → Option α) : Option α := do
  read (← fields.lookup name)

/-- An optional field of a type. -/
def optional? [Source σ] (read : σ → Option α) (v : σ) : Option (Option α) := do
  match ← Source.optional? v with
  | none => return none
  | some w => return some (← read w)

/-- A list of things of a type. -/
def list? [Source σ] (read : σ → Option α) (v : σ) : Option (List α) := do
  (← Source.items? v).mapM read

end Record

end Turnstile
