import Turnstile.Proofs.Data.Shows
import Turnstile.Proofs.Text.Digits
import Turnstile.Proofs.Yaml.Spellings
import Turnstile.Yaml.Source

/-!
# What the node of a tree means

A tree is written as a node of its own: collections as collections, and everything else as a scalar
in the style that it is printed in. That node means the tree again, and reading it by type gives
what the tree has there.

## Main definitions

- `Yaml.Node.ofData` — the node that a tree is written as

## Main statements

- `Yaml.scalarMeaning?_ofText` — a text in the style chosen for it means the text
- `Yaml.Document.meaning?_ofData` — the node of a simple tree means the tree
- `Yaml.Value.shows_ofData` — the node of a simple tree shows the tree
-/

namespace Turnstile.Yaml

namespace Node

variable {ρ : Type}

mutual

/-- The node that a tree is written as. -/
def ofData : Data → Node ρ
  | .null => .scalar {} .plain "null"
  | .bool b => .scalar {} .plain (if b then "true" else "false")
  | .int n => .scalar {} .plain (toString n)
  | .real => .scalar {} .plain ".nan"
  | .text s => .scalar {} (Style.ofText s) s
  | .list items => .sequence {} (ofItems items)
  | .map entries => .mapping {} (ofEntries entries)

/-- The nodes of the items of a list. -/
def ofItems : List Data → List (Node ρ)
  | [] => []
  | v :: rest => ofData v :: ofItems rest

/-- The nodes of the entries of a map. -/
def ofEntries : List (Data × Data) → List (Node ρ × Node ρ)
  | [] => []
  | (key, v) :: rest => (ofData key, ofData v) :: ofEntries rest

end

theorem ofItems_eq_map (items : List Data) :
    (ofItems items : List (Node ρ)) = items.map ofData := by
  induction items with
  | nil => rfl
  | cons v rest ih => rw [ofItems, ih, List.map_cons]

theorem ofEntries_eq_map (entries : List (Data × Data)) :
    (ofEntries entries : List (Node ρ × Node ρ)) = entries.map
    fun e => (ofData e.1, ofData e.2) := by
  induction entries with
  | nil => rfl
  | cons e rest ih => rw [ofEntries, ih, List.map_cons]

end Node

/-! ### Scalars -/

theorem eq_of_plainMeaning?_eq_text {s t : String}
    (h : plainMeaning? s = some (.text t)) : t = s := by
  have hfraction : fractionOrText s = .text t → t = s := by
    unfold fractionOrText
    split
    · nofun
    · exact fun heq => (Data.text.inj heq).symm
  unfold plainMeaning? at h
  split at h
  · cases h
  · split at h
    · cases h
    · split at h
      · exact hfraction (Option.some.inj h)
      · split at h
        · cases h
        · split at h
          · cases h
          · exact hfraction (Option.some.inj h)

/-- A plain scalar that is read as a text means it. -/
theorem plainMeaning?_of_readsAsText {s : String} (h : readsAsText s = true) :
    plainMeaning? s = some (.text s) := by
  unfold readsAsText at h
  split at h
  · next t ht => rw [ht, eq_of_plainMeaning?_eq_text ht]
  · cases h

theorem scalarMeaning?_ofText (s : String) :
    scalarMeaning? none (Style.ofText s) s = some (.text s) := by
  change (if Style.ofText s = .plain then plainMeaning? s else some (.text s)) = some (.text s)
  split
  · next h => exact plainMeaning?_of_readsAsText (Style.ofText_eq_plain h).1
  · rfl

/-- A plain scalar that means a text is not vacant. -/
theorem not_vacant_of_plain {s : String} (h : Style.ofText s = .plain) :
    (s = "" || isNull s) = false := by
  have hmeaning := plainMeaning?_of_readsAsText (Style.ofText_eq_plain h).1
  unfold plainMeaning? at hmeaning
  split at hmeaning
  · cases hmeaning
  · next hvacant => exact Bool.eq_false_iff.2 hvacant

/-! ### Numbers -/

theorem isDigit_of_mem_toString {n : Nat} {c : Char} (h : c ∈ (toString n).toList) :
    c.isDigit = true := by
  rw [Nat.toString_eq_repr, Nat.toList_repr] at h
  exact Nat.isDigit_of_mem_toDigits (by decide) (by decide) h

theorem head?_toString (n : Nat) : (toString n).toList.head?.any Char.isDigit = true := by
  have hpos : 0 < (toString n).toList.length := by
    rw [Nat.toString_eq_repr, Nat.toList_repr]
    exact Text.length_toDigits_pos n
  obtain ⟨c, cs, hcs⟩ := List.exists_cons_of_ne_nil (List.ne_nil_of_length_pos hpos)
  have hdigit : c.isDigit = true := isDigit_of_mem_toString (hcs ▸ List.mem_cons_self)
  rw [hcs]
  exact hdigit

/-- A number is not spelled like any word that does not begin with a digit. -/
theorem contains_toString {words : List String}
    (h : words.all (fun w => !w.toList.head?.any Char.isDigit) = true) (n : Nat) :
    words.contains (toString n) = false := by
  rw [Bool.eq_false_iff]
  intro hmem
  have hword := List.all_eq_true.1 h _ (List.contains_iff_mem.1 hmem)
  rw [head?_toString] at hword
  cases hword

theorem magnitude?_toDigits (n : Nat) : magnitude? (Nat.toDigits 10 n) = some n := by
  have hread : Text.readDigits? (Nat.toDigits 10 n) = some n := by
    have hne : Nat.toDigits 10 n ≠ [] := List.ne_nil_of_length_pos (Text.length_toDigits_pos n)
    have hall : (Nat.toDigits 10 n).all Char.isDigit = true :=
      List.all_eq_true.2 fun c hc => Nat.isDigit_of_mem_toDigits (by decide) (by decide) hc
    rw [Text.readDigits?, if_pos ⟨hne, hall⟩, Text.digitsValue_toDigits]
  -- only what begins with a zero and goes on could be in another base, and no decimal does
  unfold magnitude?
  split
  · next mark rest hfront =>
    rcases Nat.eq_zero_or_pos n with rfl | hpos
    · cases hfront
    · exact absurd (hfront ▸ rfl) (Text.head?_toDigits_ne_zero hpos)
  · exact hread

theorem natural?_toString (n : Nat) : natural? (toString n) = some n := by
  have hdigits : ∀ c ∈ (toString n).toList, c.isDigit = true := fun _ => isDigit_of_mem_toString
  unfold natural?
  split
  · next rest hsign => exact absurd (hdigits '+' (hsign ▸ List.mem_cons_self)) (by decide)
  · rw [Nat.toString_eq_repr, Nat.toList_repr, magnitude?_toDigits]

theorem integer?_toString (n : Nat) : integer? (toString n) = some (n : Int) := by
  have hdigits : ∀ c ∈ (toString n).toList, c.isDigit = true := fun _ => isDigit_of_mem_toString
  unfold integer?
  split
  · next rest hsign => exact absurd (hdigits '-' (hsign ▸ List.mem_cons_self)) (by decide)
  · rw [natural?_toString]
    rfl

theorem not_vacant_toString (n : Nat) : (toString n = "" || isNull (toString n)) = false := by
  have hnull : isNull (toString n) = false := contains_toString (by decide) n
  have hne : toString n ≠ "" := by simp
  rw [hnull, Bool.or_false, decide_eq_false hne]

theorem bool?_toString (n : Nat) : bool? (toString n) = none := by
  have htrue : ["true", "True", "TRUE"].contains (toString n) = false :=
    contains_toString (by decide) n
  have hfalse : ["false", "False", "FALSE"].contains (toString n) = false :=
    contains_toString (by decide) n
  unfold bool?
  rw [htrue, hfalse]
  rfl

theorem fits64_of_lt {n : Nat} (h : n < 18446744073709551616) : fits64 n = true := by
  have hlow : -Int.pow 2 63 ≤ (n : Int) := by
    have hneg : -Int.pow 2 63 ≤ 0 := by decide
    exact Int.le_trans hneg (Int.natCast_nonneg n)
  have hhigh : (n : Int) < Int.pow 2 64 := Int.ofNat_lt.2 h
  rw [fits64, decide_eq_true hlow, decide_eq_true hhigh]
  rfl

theorem plainMeaning?_toString {n : Nat} (h : n < 18446744073709551616) :
    plainMeaning? (toString n) = some (.nat n) := by
  unfold plainMeaning?
  rw [not_vacant_toString, bool?_toString, integer?_toString]
  simp only [Bool.false_eq_true, if_false, fits64_of_lt h, if_true]
  rfl

/-! ### Trees -/

/-- Things that are read back one by one from what they are written as are read back in a row. -/
theorem mapM_map_run_eq {α β σ : Type} {write : α → β} {read : β → StateT σ Option α}
    {s : σ} {as : List α} (h : ∀ a ∈ as, (read (write a)).run s = some (a, s)) :
    ((as.map write).mapM read).run s = some (as, s) := by
  induction as with
  | nil => rfl
  | cons a as ih =>
    have hfirst := h a List.mem_cons_self
    have hrest := ih fun a ha => h a (List.mem_cons_of_mem _ ha)
    rw [List.map_cons, List.mapM_cons]
    simp only [StateT.run_bind, hfirst, hrest, StateT.run_pure, Option.bind_eq_bind,
      Option.bind_some, Option.pure_def]

namespace Document

variable {isKey : String → Prop} {depth limit : Nat} {x : Data}

theorem meaning?_scalar (d : Document) {style : Style} {text : String}
    (h : scalarMeaning? none style text = some x) (limit left : Nat) :
    (d.meaning? limit (.scalar {} style text)).run left = some (x, left) := by
  cases limit <;> simp [meaning?, resolve?, h]

theorem meaning?_sequence {d : Document} {items : List (Node Nat)} {parts : List Data} {left : Nat}
    (h : (items.mapM (d.meaning? limit)).run left = some (parts, left)) :
    (d.meaning? (limit + 1) (.sequence {} items)).run left = some (.list parts, left) := by
  simp [meaning?, resolve?, localTag?, h]

theorem meaning?_mapping {d : Document} {entries : List (Node Nat × Node Nat)}
    {parts : List (Data × Data)}
    {left : Nat} (h : (entries.mapM fun (e : Node Nat × Node Nat) => do
      return (← d.meaning? limit e.1, ← d.meaning? limit e.2)).run left = some (parts, left)) :
    (d.meaning? (limit + 1) (.mapping {} entries)).run left = some (.map parts, left) := by
  simp only [bind_pure_comp] at h
  simp [meaning?, resolve?, localTag?, h]

/-- The node of a simple tree means the tree. -/
theorem meaning?_ofData (d : Document) (h : x.Simple isKey depth) (hlimit : depth ≤ limit)
    (left : Nat) :
    (d.meaning? limit (.ofData x)).run left = some (x, left) := by
  induction h generalizing limit with
  | null => exact d.meaning?_scalar rfl limit left
  | bool b => exact d.meaning?_scalar (by cases b <;> rfl) limit left
  | @nat _ n small =>
    have hmeaning : scalarMeaning? none .plain (toString (n : Int)) = some (.nat n) :=
      plainMeaning?_toString small
    exact d.meaning?_scalar hmeaning limit left
  | text s => exact d.meaning?_scalar (scalarMeaning?_ofText s) limit left
  | list _ ih =>
    obtain ⟨limit, rfl⟩ : ∃ k, limit = k + 1 := ⟨limit - 1, by omega⟩
    rw [Node.ofData, Node.ofItems_eq_map]
    exact meaning?_sequence (mapM_map_run_eq fun v hv => ih v hv (Nat.le_of_succ_le_succ hlimit))
  | record _ _ ih =>
    obtain ⟨limit, rfl⟩ : ∃ k, limit = k + 1 := ⟨limit - 1, by omega⟩
    rw [Data.record, Node.ofData, Node.ofEntries_eq_map]
    refine meaning?_mapping (mapM_map_run_eq fun e he => ?_)
    obtain ⟨entry, hentry, rfl⟩ := List.mem_map.1 he
    have hkey : (d.meaning? limit (.ofData (.text entry.1))).run left =
        some (.text entry.1, left) :=
      d.meaning?_scalar (scalarMeaning?_ofText entry.1) limit left
    have hvalue := ih entry hentry (Nat.le_of_succ_le_succ hlimit)
    simp [hkey, hvalue]

end Document

namespace Value

variable {isKey : String → Prop} {depth : Nat} {x : Data}

theorem content?_ofData (d : Document) (h : x.Simple isKey depth)
    (hdepth : depth ≤ Document.depthLimit) :
    Source.content? (⟨d, .ofData x⟩ : Value) = some x := by
  change ((d.meaning? Document.depthLimit (.ofData x)).run d.aliasLimit).map (·.1) = some x
  rw [d.meaning?_ofData h hdepth]
  rfl

theorem optional?_scalar (d : Document) (style : Style) {text : String}
    (h : style = .plain → (text = "" || isNull text) = false) :
    Source.optional? (⟨d, .scalar {} style text⟩ : Value) =
      some (some ⟨d, .scalar {} style text⟩) := by
  cases style with
  | plain =>
    change some (if text = "" || isNull text then none else _) = _
    rw [h rfl]
    rfl
  | _ => rfl

theorem nat?_toString (d : Document) {n limit : Nat} (h : n ≤ limit) :
    Source.nat? limit (⟨d, .scalar {} .plain (toString n)⟩ : Value) = some n := by
  change (do
    let m ← natural? (toString n)
    if m ≤ limit then return m else none) = some n
  rw [natural?_toString]
  exact if_pos h

theorem entries?_mapping (d : Document) (entries : List (String × Data)) :
    (⟨d, .mapping {} (Node.ofEntries (entries.map fun e => (.text e.1, e.2)))⟩ : Value).entries? =
      some (entries.map fun e => (e.1, ⟨d, .ofData e.2⟩)) := by
  rw [Node.ofEntries_eq_map, List.map_map]
  refine mapM_eq_of_forall₂ ?_ fun _ _ _ h => h
  rw [List.forall₂_map_left_iff, List.forall₂_map_right_iff, List.forall₂_same]
  exact fun e _ => rfl

/-- The node of a simple tree shows the tree. -/
theorem shows_ofData (d : Document) (h : x.Simple isKey depth)
    (hdepth : depth ≤ Document.depthLimit) :
    Shows (⟨d, .ofData x⟩ : Value) x := by
  have hcontent : ∀ {depth : Nat} {x : Data}, x.Simple isKey depth → depth ≤ Document.depthLimit →
      Source.content? (⟨d, .ofData x⟩ : Value) = some x := content?_ofData d
  induction h with
  | null => exact .null rfl (hcontent .null hdepth)
  | bool b => exact .bool (by cases b <;> rfl) (by cases b <;> rfl) (hcontent (.bool b) hdepth)
  | @nat _ n small =>
    have hpresent := optional?_scalar d .plain fun _ => not_vacant_toString n
    exact .nat (fun _ => nat?_toString d) hpresent (hcontent (.nat small) hdepth)
  | text s =>
    have hpresent := optional?_scalar d (Style.ofText s) not_vacant_of_plain
    exact .text rfl (fun _ => rfl) hpresent (hcontent (.text s) hdepth)
  | @list _ items parts ih =>
    have hitems : Source.items? (⟨d, .ofData (.list items)⟩ : Value) =
        some (items.map fun x => ⟨d, .ofData x⟩) := by
      rw [Node.ofData, Node.ofItems_eq_map]
      change some ((items.map Node.ofData).map _) = _
      rw [List.map_map]
      rfl
    refine .list hitems ?_ rfl (hcontent (.list parts) hdepth)
    rw [List.forall₂_map_left_iff, List.forall₂_same]
    exact fun x hx => ih x hx (Nat.le_of_succ_le hdepth)
  | @record _ entries keys parts ih =>
    have hentries : Source.entries? (⟨d, .ofData (.record entries)⟩ : Value) =
        some (entries.map fun e => (e.1, ⟨d, .ofData e.2⟩)) := entries?_mapping d entries
    have hfields : Source.fields? (⟨d, .ofData (.record entries)⟩ : Value) =
        some (.named (entries.map fun e => (e.1, ⟨d, .ofData e.2⟩))) :=
      congrArg (Option.map Fields.named) hentries
    refine .map hentries hfields (by simp [Function.comp_def]) ?_ rfl
      (hcontent (.record keys parts) hdepth)
    rw [List.map_map, List.map_map, List.forall₂_map_left_iff, List.forall₂_map_right_iff,
      List.forall₂_same]
    exact fun e he => ih e he (Nat.le_of_succ_le hdepth)

end Value

end Turnstile.Yaml
