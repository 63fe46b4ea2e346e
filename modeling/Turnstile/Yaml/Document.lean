import Turnstile.Yaml.Node

/-!
# YAML documents

A document is a node together with what its aliases stand for. Anchors are numbered: an anchor gets
as its number how many names have been in use before it. An alias takes the number that its name has
where it stands, and means the last node of the document with that number. A name that is given
again therefore shares its number with the next new name.

## Main definitions

- `Yaml.Names` — the numbers of names
- `Yaml.Node.link?` — a node with numbers in place of names
- `Yaml.Document` — a node and what its aliases stand for
- `Yaml.Document.ofText?` — the document that a text holds
-/

namespace Turnstile.Yaml

/-- The numbers of the names in use, each name once. -/
abbrev Names := List (String × Nat)

namespace Names

/-- Gives a name the next number. -/
def bind (names : Names) (name : String) : Names :=
  (name, names.length) :: names.filter (·.1 ≠ name)

/-- An anchor with its number, and the names after it. -/
def anchor (names : Names) (p : Props String) : Props Nat × Names :=
  match p.anchor with
  | none => (⟨none, p.tag⟩, names)
  | some name => (⟨some names.length, p.tag⟩, names.bind name)

end Names

namespace Node

mutual

/-- A node with numbers in place of names, and the names in use after it. An alias has to follow its
anchor. -/
def link? (names : Names) : Node String → Option (Node Nat × Names)
  | .alias name => do return (.alias (← names.lookup name), names)
  | .scalar props style text =>
    let (props, names) := names.anchor props
    some (.scalar props style text, names)
  | .sequence props items => do
    let (props, names) := names.anchor props
    let (items, names) ← linkItems? names items
    return (.sequence props items, names)
  | .mapping props entries => do
    let (props, names) := names.anchor props
    let (entries, names) ← linkEntries? names entries
    return (.mapping props entries, names)

/-- Items with numbers in place of names. -/
def linkItems? (names : Names) : List (Node String) → Option (List (Node Nat) × Names)
  | [] => some ([], names)
  | item :: rest => do
    let (item, names) ← item.link? names
    let (rest, names) ← linkItems? names rest
    return (item :: rest, names)

/-- Entries with numbers in place of names. -/
def linkEntries? (names : Names) :
    List (Node String × Node String) → Option (List (Node Nat × Node Nat) × Names)
  | [] => some ([], names)
  | (key, value) :: rest => do
    let (key, names) ← key.link? names
    let (value, names) ← value.link? names
    let (rest, names) ← linkEntries? names rest
    return ((key, value) :: rest, names)

end

/-- A node by the number of its anchor, if it has one. -/
def numbered (p : Props Nat) (v : Node Nat) : List (Nat × Node Nat) :=
  match p.anchor with
  | some n => [(n, v)]
  | none => []

mutual

/-- The nodes with an anchor in the order in which they begin. -/
def anchored : Node Nat → List (Nat × Node Nat)
  | .alias _ => []
  | .scalar props style text => numbered props (.scalar props style text)
  | .sequence props items => numbered props (.sequence props items) ++ anchoredItems items
  | .mapping props entries => numbered props (.mapping props entries) ++ anchoredEntries entries

/-- The nodes with an anchor among items. -/
def anchoredItems : List (Node Nat) → List (Nat × Node Nat)
  | [] => []
  | item :: rest => item.anchored ++ anchoredItems rest

/-- The nodes with an anchor among entries. -/
def anchoredEntries : List (Node Nat × Node Nat) → List (Nat × Node Nat)
  | [] => []
  | (key, value) :: rest => key.anchored ++ value.anchored ++ anchoredEntries rest

end

mutual

/-- How large a node is: a collection counts for its two ends. -/
def weight : Node Nat → Nat
  | .alias _ => 1
  | .scalar _ _ _ => 1
  | .sequence _ items => 2 + weightOfItems items
  | .mapping _ entries => 2 + weightOfEntries entries

/-- How large some items are together. -/
def weightOfItems : List (Node Nat) → Nat
  | [] => 0
  | item :: rest => item.weight + weightOfItems rest

/-- How large some entries are together. -/
def weightOfEntries : List (Node Nat × Node Nat) → Nat
  | [] => 0
  | (key, value) :: rest => key.weight + value.weight + weightOfEntries rest

end

end Node

/-- A document: its node, and what numbers of aliases stand for. -/
structure Document where
  root : Node Nat
  anchored : List (Nat × Node Nat)

namespace Document

/-- The document of a node. -/
def ofNode (root : Node Nat) : Document :=
  ⟨root, root.anchored.reverse⟩

/-- The node that an alias stands for. -/
def target? (d : Document) (n : Nat) : Option (Node Nat) :=
  d.anchored.lookup n

/-- How many aliases may be followed when a value of the document is read. -/
def aliasLimit (d : Document) : Nat := 100 * d.root.weight

/-- The document that a text holds. A text without any is an empty document. -/
def ofText? (text : List Char) : Option Document := do
  let node ← Node.ofTokens? (← Token.ofText? text)
  let (root, _) ← node.link? []
  return ofNode root

end Document

end Turnstile.Yaml
