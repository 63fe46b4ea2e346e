import Turnstile.Proofs.Yaml.Meaning

/-!
# Nodes from their tokens

A node without anchors, tags and aliases is made of tokens in one way, but for the indentation of a
sequence that is the value of an entry. Reading those tokens gives the node back and leaves what
follows them.

## Main definitions

- `Yaml.Node.tokens` — the tokens of a node
- `Yaml.Node.Readable` — the node is read from its tokens, whatever follows them

## Main statements

- `Yaml.Node.readable_ofData` — the node of a simple tree is readable
- `Yaml.Node.ofTokens?_tokens` — a text that has just these tokens consists of the node
- `Yaml.Node.link?_ofData` — without names there is nothing to number
-/

namespace Turnstile.Yaml

namespace Node

mutual

/-- The tokens of a node without anchors and tags. The items of a sequence that is the value of an
entry are not indented. -/
def tokens (inEntry : Bool) : Node String → List Token
  | .alias name => [.alias name]
  | .scalar _ style text => [.scalar style text]
  | .sequence _ [] => [.flowSequenceStart, .flowSequenceEnd]
  | .sequence _ (v :: rest) =>
    if inEntry then itemTokens (v :: rest) else .blockSequenceStart ::
      itemTokens (v :: rest) ++ [.blockEnd]
  | .mapping _ [] => [.flowMappingStart, .flowMappingEnd]
  | .mapping _ (e :: rest) => .blockMappingStart :: entryTokens (e :: rest) ++ [.blockEnd]

/-- The tokens of the items of a block sequence. -/
def itemTokens : List (Node String) → List Token
  | [] => []
  | v :: rest => .blockEntry :: tokens false v ++ itemTokens rest

/-- The tokens of the entries of a block mapping. -/
def entryTokens : List (Node String × Node String) → List Token
  | [] => []
  | (key, v) :: rest => .key :: tokens true key ++ .value :: tokens true v ++ entryTokens rest

end

/-- Whether a node can begin with a token; a sequence that is not indented begins with a dash. -/
def begins (inEntry : Bool) : Token → Bool
  | .alias _ => true
  | .scalar _ _ => true
  | .flowSequenceStart => true
  | .flowMappingStart => true
  | .blockSequenceStart => true
  | .blockMappingStart => true
  | .blockEntry => inEntry
  | _ => false

theorem exists_tokens_cons (inEntry : Bool) :
    ∀ v : Node String, ∃ t rest, tokens inEntry v = t :: rest ∧ begins inEntry t = true
  | .alias name => ⟨_, _, tokens.eq_1 inEntry name, rfl⟩
  | .scalar props style text => ⟨_, _, tokens.eq_2 inEntry props style text, rfl⟩
  | .sequence props [] => ⟨_, _, tokens.eq_3 inEntry props, rfl⟩
  | .sequence props (v :: rest) => by
    rw [tokens]
    cases inEntry with
    | false => exact ⟨_, _, rfl, rfl⟩
    | true => exact ⟨_, _, itemTokens.eq_2 v rest, rfl⟩
  | .mapping props [] => ⟨_, _, tokens.eq_5 inEntry props, rfl⟩
  | .mapping props (e :: rest) => ⟨_, _, tokens.eq_6 inEntry props e rest, rfl⟩

/-- A node that is there is not left out. -/
theorem takeOptional?_tokens {handles : Handles} {place : Place} {ends : Token → Bool}
    {inEntry : Bool} (hends : ∀ t, begins inEntry t = true → ends t = false) (v : Node String)
    (fuel : Nat) (rest : List Token) :
    takeOptional? handles place ends (fuel + 1) (v.tokens inEntry ++ rest) =
      takeNode? handles place fuel (v.tokens inEntry ++ rest) := by
  obtain ⟨t, after, htokens, hbegins⟩ := v.exists_tokens_cons inEntry
  rw [takeOptional?, htokens, List.cons_append, List.head?_cons, Option.any_some, hends t hbegins]
  rfl

/-- A node is read from its tokens, whatever follows them; only a sequence that is not indented
would go on with another item. -/
def Readable (handles : Handles) (v : Node String) : Prop :=
  ∀ (inEntry : Bool) (fuel : Nat) (rest : List Token), 4 * (v.tokens inEntry).length + 2 ≤ fuel →
    (inEntry = true → rest.head? ≠ some .blockEntry) →
    takeNode? handles (if inEntry then .entry else .block) fuel (v.tokens inEntry ++ rest) =
      some (v, rest)

/-- A sequence that is not indented ends before anything but another item. -/
theorem takeItems?_of_head?_ne {handles : Handles} {rest : List Token}
    (h : rest.head? ≠ some .blockEntry) (fuel : Nat) :
    takeItems? handles true (fuel + 1) rest = some ([], rest) := by
  unfold takeItems?
  split
  · next heq => cases heq
  · next heq => exact absurd rfl h
  · rfl

/-- Items that are readable are read one after another. -/
theorem takeItems?_itemTokens {handles : Handles} {indentless : Bool} {items : List (Node String)}
    {after rest : List Token} (h : ∀ v ∈ items, Readable handles v)
    (hend : ∀ fuel, takeItems? handles indentless (fuel + 1) after = some ([], rest)) {fuel : Nat}
    (hfuel : 4 * (itemTokens items).length + 1 ≤ fuel) :
    takeItems? handles indentless fuel (itemTokens items ++ after) = some (items, rest) := by
  -- there are four of the fuel for each token, and an item takes two before its node is read
  induction items generalizing fuel with
  | nil =>
    obtain ⟨fuel, rfl⟩ : ∃ k, fuel = k + 1 := ⟨fuel - 1, by omega⟩
    exact hend fuel
  | cons v items ih =>
    rw [itemTokens, List.length_append, List.length_cons] at hfuel
    obtain ⟨fuel, rfl⟩ : ∃ k, fuel = k + 2 := ⟨fuel - 2, by omega⟩
    have hends : ∀ t, begins false t = true → t.endsItem indentless = false := by
      intro t ht
      cases t <;> first | rfl | cases ht
    have hfirst := h v List.mem_cons_self false fuel (itemTokens items ++ after) (by omega) nofun
    have hrest : takeItems? handles indentless (fuel + 1) (itemTokens items ++ after) =
        some (items, rest) :=
      ih (fun v hv => h v (List.mem_cons_of_mem _ hv)) (by omega)
    rw [itemTokens, List.cons_append, List.cons_append, List.append_assoc, takeItems?,
      takeOptional?_tokens hends]
    simp only [Bool.false_eq_true, if_false] at hfirst
    simp [hfirst, hrest]

/-- Entries that are readable are read one after another up to the end of their mapping. -/
theorem takeEntries?_entryTokens {handles : Handles} {entries : List (Node String × Node String)}
    (h : ∀ e ∈ entries, Readable handles e.1 ∧ Readable handles e.2)
    (rest : List Token) {fuel : Nat} (hfuel : 4 * (entryTokens entries).length + 1 ≤ fuel) :
    takeEntries? handles fuel (entryTokens entries ++ .blockEnd :: rest) =
      some (entries, rest) := by
  induction entries generalizing fuel with
  | nil =>
    obtain ⟨fuel, rfl⟩ : ∃ k, fuel = k + 1 := ⟨fuel - 1, by omega⟩
    rfl
  | cons e entries ih =>
    obtain ⟨key, v⟩ := e
    simp only [entryTokens, List.length_append, List.length_cons] at hfuel
    obtain ⟨fuel, rfl⟩ : ∃ k, fuel = k + 3 := ⟨fuel - 3, by omega⟩
    have hends : ∀ t, begins true t = true → t.endsEntry = false := by
      intro t ht
      cases t <;> first | rfl | cases ht
    have hnext : (entryTokens entries ++ .blockEnd :: rest).head? ≠ some .blockEntry := by
      cases entries with
      | nil => nofun
      | cons e entries => nofun
    obtain ⟨hkey, hvalue⟩ : Readable handles key ∧ Readable handles v :=
      h (key, v) List.mem_cons_self
    have hfirst :=
      hkey true (fuel + 1) (.value :: v.tokens true ++ (entryTokens entries ++ .blockEnd :: rest))
        (by omega) nofun
    have hsecond :=
      hvalue true fuel (entryTokens entries ++ .blockEnd :: rest) (by omega) fun _ => hnext
    have hrest : takeEntries? handles (fuel + 2) (entryTokens entries ++ .blockEnd :: rest) =
        some (entries, rest) :=
      ih (fun e he => h e (List.mem_cons_of_mem _ he)) (by omega)
    simp only [if_true] at hfirst hsecond
    rw [entryTokens]
    simp only [List.cons_append, List.append_assoc] at hfirst ⊢
    rw [takeEntries?, takeOptional?_tokens hends, hfirst]
    simp only [Option.bind_eq_bind, Option.bind_some, takeValue?, takeOptional?_tokens hends,
      hsecond, hrest]
    rfl

theorem readable_scalar (handles : Handles) (style : Style) (text : String) :
    Readable handles (.scalar {} style text) := by
  intro inEntry fuel rest hfuel _
  obtain ⟨fuel, rfl⟩ : ∃ k, fuel = k + 1 := ⟨fuel - 1, by omega⟩
  simp [tokens, takeNode?, takeProps?, Props.ofScalar]

theorem readable_sequence {handles : Handles} {items : List (Node String)}
    (h : ∀ v ∈ items, Readable handles v) :
    Readable handles (.sequence {} items) := by
  intro inEntry fuel rest hfuel hrest
  cases items with
  | nil =>
    obtain ⟨fuel, rfl⟩ : ∃ k, fuel = k + 2 := ⟨fuel - 2, by omega⟩
    simp [tokens, takeNode?, takeProps?, takeFlowItems?]
  | cons v items =>
    rw [tokens] at hfuel ⊢
    obtain ⟨fuel, rfl⟩ : ∃ k, fuel = k + 1 := ⟨fuel - 1, by omega⟩
    cases inEntry with
    | false =>
      simp only [Bool.false_eq_true, if_false, List.length_append, List.length_cons] at hfuel
      have hitems : takeItems? handles false fuel (itemTokens (v :: items) ++ .blockEnd :: rest) =
          some (v :: items, rest) := takeItems?_itemTokens h (fun _ => rfl) (by omega)
      simp [takeNode?, takeProps?, hitems]
    | true =>
      simp only [if_true] at hfuel ⊢
      have hend : ∀ fuel, takeItems? handles true (fuel + 1) rest = some ([], rest) :=
        takeItems?_of_head?_ne (hrest rfl)
      have hitems : takeItems? handles true fuel (itemTokens (v :: items) ++ rest) =
          some (v :: items, rest) :=
        takeItems?_itemTokens h hend (by omega)
      rw [itemTokens, List.cons_append, List.cons_append, List.append_assoc] at hitems ⊢
      simp [takeNode?, takeProps?, hitems]

theorem readable_mapping {handles : Handles} {entries : List (Node String × Node String)}
    (h : ∀ e ∈ entries, Readable handles e.1 ∧ Readable handles e.2) :
    Readable handles (.mapping {} entries) := by
  intro inEntry fuel rest hfuel hrest
  cases entries with
  | nil =>
    obtain ⟨fuel, rfl⟩ : ∃ k, fuel = k + 2 := ⟨fuel - 2, by omega⟩
    simp [tokens, takeNode?, takeProps?, takeFlowEntries?]
  | cons e entries =>
    rw [tokens] at hfuel ⊢
    simp only [List.length_append, List.length_cons] at hfuel
    obtain ⟨fuel, rfl⟩ : ∃ k, fuel = k + 1 := ⟨fuel - 1, by omega⟩
    have hentries : takeEntries? handles fuel (entryTokens (e :: entries) ++ .blockEnd :: rest) =
        some (e :: entries, rest) := takeEntries?_entryTokens h rest (by omega)
    cases inEntry <;> simp [takeNode?, takeProps?, hentries]

/-- The node of a simple tree is readable. -/
theorem readable_ofData {isKey : String → Prop} {depth : Nat} {x : Data} (handles : Handles)
    (h : x.Simple isKey depth) : Readable handles (ofData x) := by
  induction h with
  | null => exact readable_scalar handles _ _
  | bool b => exact readable_scalar handles _ _
  | nat _ => exact readable_scalar handles _ _
  | text s => exact readable_scalar handles _ _
  | list _ ih =>
    rw [ofData, ofItems_eq_map]
    exact readable_sequence (List.forall_mem_map.2 ih)
  | record _ _ ih =>
    rw [Data.record, ofData, ofEntries_eq_map, List.map_map]
    exact readable_mapping
      (List.forall_mem_map.2 fun e he => ⟨readable_scalar handles _ _, ih e he⟩)

/-- A text that has just the tokens of a readable node consists of it. -/
theorem ofTokens?_tokens {v : Node String} (h : Readable Handles.standard v) :
    ofTokens? (v.tokens false) = some v := by
  obtain ⟨t, rest, htokens, hbegins⟩ := v.exists_tokens_cons false
  have hmarked :
      ((v.tokens false).head?.any fun t => t.isBoundary && t ≠ .documentEnd) = false := by
    rw [htokens]
    cases t <;> first | rfl | cases hbegins
  have hnode : takeNode? Handles.standard .block (4 * (v.tokens false).length + 4)
      (v.tokens false) = some (v, []) := by
    have hread := h false (4 * (v.tokens false).length + 4) [] (by omega) nofun
    rwa [List.append_nil] at hread
  have hne : v.tokens false ≠ [] := by
    rw [htokens]
    exact List.cons_ne_nil t rest
  rw [ofTokens?, if_neg hne, hmarked]
  simp [hnode]

mutual

/-- Without names there is nothing to number. -/
theorem link?_ofData (names : Names) : ∀ x : Data, (ofData x).link? names = some (ofData x, names)
  | .null => rfl
  | .bool _ => rfl
  | .int _ => rfl
  | .real => rfl
  | .text _ => rfl
  | .list items => by simp [ofData, link?, Names.anchor, linkItems?_ofItems names items]
  | .map entries => by simp [ofData, link?, Names.anchor, linkEntries?_ofEntries names entries]

theorem linkItems?_ofItems (names : Names) :
    ∀ items : List Data, linkItems? names (ofItems items) = some (ofItems items, names)
  | [] => rfl
  | v :: rest => by simp [ofItems, linkItems?, link?_ofData names v, linkItems?_ofItems names rest]

theorem linkEntries?_ofEntries (names : Names) :
    ∀ entries : List (Data × Data), linkEntries? names (ofEntries entries) =
      some (ofEntries entries, names)
  | [] => rfl
  | (key, v) :: rest => by
    simp [ofEntries, linkEntries?, link?_ofData names key, link?_ofData names v,
      linkEntries?_ofEntries names rest]

end

end Node

end Turnstile.Yaml
