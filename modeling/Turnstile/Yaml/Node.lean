import Turnstile.Yaml.Token

/-!
# YAML nodes

The tree that the tokens of a YAML text spell: scalars, sequences and mappings, each with an anchor
and a tag if it was given them, and aliases, which stand for the node with an anchor.

A text holds at most one document. What is left out, such as the value of a key, is an empty plain
scalar.

## Main definitions

- `Yaml.Node` — a node, over the type that anchors are referred to by
- `Yaml.Handles` — what the handles of tags stand for
- `Yaml.takeNode?` — the node at the front of some tokens
- `Yaml.Node.ofTokens?` — the node that a text consists of
-/

namespace Turnstile.Yaml

/-- The anchor and the tag of a node. -/
structure Props (ρ : Type) where
  anchor : Option ρ := none
  tag : Option String := none

/-- A node of a YAML text. -/
inductive Node (ρ : Type) where
  | alias (target : ρ)
  | scalar (props : Props ρ) (style : Style) (text : String)
  | sequence (props : Props ρ) (items : List (Node ρ))
  | mapping (props : Props ρ) (entries : List (Node ρ × Node ρ))

namespace Node

variable {ρ : Type}

/-- The node that stands where nothing is written. -/
def empty (props : Props ρ) : Node ρ := .scalar props .plain ""

instance : Inhabited (Node ρ) := ⟨.empty {}⟩

end Node

/-! ### Tags -/

/-- What the handles of tags stand for. -/
abbrev Handles := List (List Char × List Char)

/-- The handles that stand for something without having been declared. -/
def Handles.standard : Handles :=
  [(['!'], ['!']), (['!', '!'], "tag:yaml.org,2002:".toList)]

/-- The tag that a name stands for. A handle has to be known. -/
def Handles.resolve? (handles : Handles) (name : TagName) : Option String := do
  let start ← if name.handle = [] then some [] else handles.lookup name.handle
  return String.ofList (start ++ name.suffix)

/-- The anchor and tag at the front of some tokens, in either order. -/
def takeProps? (handles : Handles) : List Token → Option (Props String × List Token)
  | .anchor name :: .tag tag :: rest => do return (⟨some name, ← handles.resolve? tag⟩, rest)
  | .tag tag :: .anchor name :: rest => do return (⟨some name, ← handles.resolve? tag⟩, rest)
  | .anchor name :: rest => some (⟨some name, none⟩, rest)
  | .tag tag :: rest => do return (⟨none, ← handles.resolve? tag⟩, rest)
  | tokens => some ({}, tokens)

/-- The anchor and tag of a scalar that is written out. An exclamation mark alone is no tag. -/
def Props.ofScalar (p : Props String) : Props String :=
  if p.tag = some "!" then { p with tag := none } else p

/-- The node of which only an anchor or tag is written. -/
def emptyNode? (p : Props String) (rest : List Token) : Option (Node String × List Token) :=
  if p.anchor.isSome || p.tag.isSome then some (.empty p, rest) else none

/-! ### Nodes -/

/-- Where a node stands: within a flow collection, as an item or document of its own, or in an entry
of a block mapping, where the items of a sequence need no indentation. -/
inductive Place where
  | flow
  | block
  | entry
deriving DecidableEq

/-- Whether an item of a block sequence is left out before a token. -/
def Token.endsItem (indentless : Bool) : Token → Bool
  | .blockEntry => true
  | .blockEnd => true
  | .key => indentless
  | .value => indentless
  | _ => false

/-- Whether the key or value of a block mapping is left out before a token. -/
def Token.endsEntry : Token → Bool
  | .key => true
  | .value => true
  | .blockEnd => true
  | _ => false

/-- Whether the value in a flow collection is left out before a token. -/
def Token.endsFlow (close : Token) (t : Token) : Bool :=
  t = .flowEntry || t = close

/-- The tokens after the comma that has to stand before every item of a flow collection but the
first. -/
def afterComma? (isFirst : Bool) (tokens : List Token) : Option (List Token) :=
  if isFirst then some tokens
  else match tokens with
    | .flowEntry :: rest => some rest
    | _ => none

mutual

/-- The node at the front of some tokens, and the tokens after it. -/
def takeNode? (handles : Handles) (place : Place) :
    Nat → List Token → Option (Node String × List Token)
  | 0, _ => none
  | _ + 1, .alias name :: rest => some (.alias name, rest)
  | fuel + 1, tokens => do
    let (props, rest) ← takeProps? handles tokens
    match rest with
    | .scalar style text :: rest => return (.scalar props.ofScalar style text, rest)
    | .flowSequenceStart :: rest =>
      let (items, rest) ← takeFlowItems? handles true fuel rest
      return (.sequence props items, rest)
    | .flowMappingStart :: rest =>
      let (entries, rest) ← takeFlowEntries? handles true fuel rest
      return (.mapping props entries, rest)
    | t :: after =>
      if place = .entry && t = .blockEntry then
        let (items, rest) ← takeItems? handles true fuel rest
        return (.sequence props items, rest)
      else if place ≠ .flow && t = .blockSequenceStart then
        let (items, rest) ← takeItems? handles false fuel after
        return (.sequence props items, rest)
      else if place ≠ .flow && t = .blockMappingStart then
        let (entries, rest) ← takeEntries? handles fuel after
        return (.mapping props entries, rest)
      else emptyNode? props rest
    | [] => emptyNode? props rest

/-- The node that is left out before a token at which `ends` holds, or else the node at the front.
-/
def takeOptional? (handles : Handles) (place : Place) (ends : Token → Bool) :
    Nat → List Token → Option (Node String × List Token)
  | 0, _ => none
  | fuel + 1, tokens =>
    if tokens.head?.any ends then some (.empty {}, tokens) else takeNode? handles place fuel tokens

/-- The value after a colon; without a colon it is left out. -/
def takeValue? (handles : Handles) (place : Place) (ends : Token → Bool) :
    Nat → List Token → Option (Node String × List Token)
  | 0, _ => none
  | fuel + 1, .value :: rest => takeOptional? handles place ends fuel rest
  | _ + 1, tokens => some (.empty {}, tokens)

/-- The items of a block sequence. If it is not indented nothing closes it. -/
def takeItems? (handles : Handles) (indentless : Bool) :
    Nat → List Token → Option (List (Node String) × List Token)
  | 0, _ => none
  | fuel + 1, .blockEntry :: rest => do
    let (item, rest) ← takeOptional? handles .block (Token.endsItem indentless) fuel rest
    let (items, rest) ← takeItems? handles indentless fuel rest
    return (item :: items, rest)
  | _ + 1, tokens =>
    if indentless then some ([], tokens)
    else match tokens with
      | .blockEnd :: rest => some ([], rest)
      | _ => none

/-- The entries of a block mapping. -/
def takeEntries? (handles : Handles) :
    Nat → List Token → Option (List (Node String × Node String) × List Token)
  | 0, _ => none
  | fuel + 1, .key :: rest => do
    let (key, rest) ← takeOptional? handles .entry Token.endsEntry fuel rest
    let (value, rest) ← takeValue? handles .entry Token.endsEntry fuel rest
    let (entries, rest) ← takeEntries? handles fuel rest
    return ((key, value) :: entries, rest)
  | _ + 1, .blockEnd :: rest => some ([], rest)
  | _ + 1, _ => none

/-- The items of a flow sequence. A key in it makes a mapping of one entry; where its key is left
out the token that stands there instead is passed over. -/
def takeFlowItems? (handles : Handles) (isFirst : Bool) :
    Nat → List Token → Option (List (Node String) × List Token)
  | 0, _ => none
  | _ + 1, .flowSequenceEnd :: rest => some ([], rest)
  | fuel + 1, tokens => do
    match ← afterComma? isFirst tokens with
    | .flowSequenceEnd :: rest => return ([], rest)
    | .key :: rest =>
      let omitted := rest.head?.any fun t => t = .value || t.endsFlow .flowSequenceEnd
      let (key, rest) ←
        if omitted then some (.empty {}, rest.drop 1) else takeNode? handles .flow fuel rest
      let (value, rest) ← takeValue? handles .flow (Token.endsFlow .flowSequenceEnd) fuel rest
      let (items, rest) ← takeFlowItems? handles false fuel rest
      return (.mapping {} [(key, value)] :: items, rest)
    | rest =>
      let (item, rest) ← takeNode? handles .flow fuel rest
      let (items, rest) ← takeFlowItems? handles false fuel rest
      return (item :: items, rest)

/-- The entries of a flow mapping. What is not marked as a key has an empty value. -/
def takeFlowEntries? (handles : Handles) (isFirst : Bool) :
    Nat → List Token → Option (List (Node String × Node String) × List Token)
  | 0, _ => none
  | _ + 1, .flowMappingEnd :: rest => some ([], rest)
  | fuel + 1, tokens => do
    match ← afterComma? isFirst tokens with
    | .flowMappingEnd :: rest => return ([], rest)
    | .key :: rest =>
      let ends := Token.endsFlow .flowMappingEnd
      let (key, rest) ← takeOptional? handles .flow (fun t => t = .value || ends t) fuel rest
      let (value, rest) ← takeValue? handles .flow ends fuel rest
      let (entries, rest) ← takeFlowEntries? handles false fuel rest
      return ((key, value) :: entries, rest)
    | rest =>
      let (key, rest) ← takeNode? handles .flow fuel rest
      let (entries, rest) ← takeFlowEntries? handles false fuel rest
      return ((key, .empty {}) :: entries, rest)

end

/-! ### Documents -/

/-- The directives at the front of some tokens: whether a version has been claimed, and the handles
that they declare. Nothing may be declared twice, and only versions 1.1 and 1.2 are known. -/
def takeDirectives? (versioned : Bool) (handles : Handles) :
    List Token → Option (Handles × List Token)
  | .version major minor :: rest =>
    if versioned ∨ major ≠ 1 ∨ (minor ≠ 1 ∧ minor ≠ 2) then none
    else takeDirectives? true handles rest
  | .tagDirective handle uri :: rest =>
    if (handles.lookup handle).isSome then none
    else takeDirectives? versioned ((handle, uri) :: handles) rest
  | tokens => some (handles, tokens)

/-- Whether a token stands between documents. -/
def Token.isBoundary : Token → Bool
  | .version _ _ => true
  | .tagDirective _ _ => true
  | .documentStart => true
  | .documentEnd => true
  | _ => false

/-- The node of a document that begins with directives and a marker. -/
def takeMarked? (tokens : List Token) : Option (Node String × List Token) := do
  let (handles, rest) ← takeDirectives? false [] tokens
  match rest with
  | .documentStart :: rest =>
    if rest.head?.all Token.isBoundary then return (.empty {}, rest)
    else takeNode? (handles ++ Handles.standard) .block (4 * rest.length + 4) rest
  | _ => none

/-- The node that a text consists of, from its tokens. Nothing may follow it but end markers. -/
def Node.ofTokens? (tokens : List Token) : Option (Node String) :=
  if tokens = [] then some (.empty {})
  else do
    let marked := tokens.head?.any fun t => t.isBoundary && t ≠ .documentEnd
    let (node, rest) ←
      if marked then takeMarked? tokens
      else takeNode? Handles.standard .block (4 * tokens.length + 4) tokens
    if rest.all (· = .documentEnd) then return node else none

end Turnstile.Yaml
