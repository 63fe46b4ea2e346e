import Turnstile.Data.Source
import Turnstile.Yaml.Meaning

/-!
# Typed values from YAML

What a value is to be decides how its scalars are read: a field that holds a text takes every scalar
as its text, even where the scalar would mean a number by itself. Numbers and truth values have to
be plain, or literal blocks tagged as such. Lists and records may be left empty.

## Main definitions

- `Yaml.Value` — a node within a document
- the `Source` instance of `Yaml.Value`
-/

namespace Turnstile.Yaml

/-- A node within a document. -/
structure Value where
  document : Document
  node : Node Nat

/-- The value that a document is. -/
def Document.value (d : Document) : Value := ⟨d, d.root⟩

namespace Document

/-- The node itself, or what it stands for if it is an alias. -/
def follow? (d : Document) : Node Nat → Option (Node Nat)
  | .alias n => d.target? n
  | v => some v

/-- How deep collections may be nested within the value of a route's field. -/
def depthLimit : Nat := 125

/-- The node itself, or what it stands for if it is an alias. The state is the number of aliases
that may still be followed. -/
def resolve? (d : Document) : Node Nat → StateT Nat Option (Node Nat)
  | .alias n => do
    match ← get with
    | 0 => failure
    | left + 1 => do
      set left
      d.target? n
  | v => pure v

/-- What a node means, given how deep collections may be nested in it. -/
def meaning? (d : Document) : Nat → Node Nat → StateT Nat Option Data
  | 0, v => do
    match ← d.resolve? v with
    | .scalar props style text => scalarMeaning? props.tag style text
    | _ => failure
  | depth + 1, v => do
    match ← d.resolve? v with
    | .scalar props style text => scalarMeaning? props.tag style text
    | .sequence props items =>
      if (localTag? props.tag).isSome then failure
      else do return .list (← items.mapM (d.meaning? depth))
    | .mapping props entries =>
      if (localTag? props.tag).isSome then failure
      else do return .map (← entries.mapM fun (key, value) => do
        return (← d.meaning? depth key, ← d.meaning? depth value))
    | .alias _ => failure

end Document

namespace Value

/-- Another node of the same document. -/
def within (v : Value) (node : Node Nat) : Value := ⟨v.document, node⟩

/-- The node that a value is or stands for. -/
def node? (v : Value) : Option (Node Nat) := v.document.follow? v.node

/-- The text of a scalar, whatever its style. -/
def text? (v : Value) : Option String :=
  match v.node? with
  | some (.scalar _ _ text) => some text
  | _ => none

/-- The text of a scalar that may spell something of a type. -/
def spelling? (v : Value) (type : String) : Option String :=
  match v.node? with
  | some (.scalar props style text) =>
    if style = .plain ∨ (style = .literal ∧ props.tag = some (coreTag type)) then some text
    else none
  | _ => none

/-- Whether nothing is written for a value. -/
def isVacant (v : Value) : Bool :=
  match v.node? with
  | some (.scalar _ style text) => style = .plain && text = ""
  | _ => false

/-- A natural number of at most `limit`. -/
def nat? (limit : Nat) (v : Value) : Option Nat := do
  let n ← natural? (← v.spelling? "int")
  if n ≤ limit then return n else none

/-- A thing that may be absent. What is tagged as null has to be spelled so; any other tag says that
there is something. -/
def optional? (v : Value) : Option (Option Value) :=
  match v.node? with
  | some (.scalar props .plain text) =>
    match props.tag with
    | none => some (if text = "" || isNull text then none else some v)
    | some t =>
      if t = coreTag "null" then (if isNull text then some none else none) else some (some v)
  | some _ => some (some v)
  | none => none

/-- The items of a list. -/
def items? (v : Value) : Option (List Value) :=
  match v.node? with
  | some (.sequence _ items) => some (items.map v.within)
  | _ => if v.isVacant then some [] else none

/-- The name of an alternative: a tag on an empty scalar, or the text of a scalar without such a
tag. -/
def variant? (v : Value) : Option String :=
  match v.node? with
  | some (.scalar props style text) =>
    match localTag? props.tag with
    | some name => if style = .plain ∧ (text = "" ∨ isNull text) then some name else none
    | none => some text
  | _ => none

/-- The entries of a mapping, all of whose keys have to be scalars. -/
def entries? (v : Value) : Option (List (String × Value)) :=
  match v.node? with
  | some (.mapping _ entries) => entries.mapM fun (key, value) => do
    return (← (v.within key).text?, v.within value)
  | _ => if v.isVacant then some [] else none

/-- The meaning of a value. -/
def content? (v : Value) : Option Data :=
  ((v.document.meaning? Document.depthLimit v.node).run v.document.aliasLimit).map (·.1)

instance : Source Value where
  text? := text?
  bool? := fun v => v.spelling? "bool" >>= bool?
  nat? := nat?
  optional? := optional?
  items? := items?
  variant? := fun _ => variant?
  fields? := fun v => v.entries?.map .named
  entries? := entries?
  content? := content?

end Value

end Turnstile.Yaml
