import Turnstile.Net.Forwarded
import Turnstile.Proofs.Net.RoundTrip
import Turnstile.Proofs.Text.Split

/-!
# The address that a list of forwarded addresses names

An entry of the list that spells an address is read as that address, with blanks around it or
without, in brackets or without. Entries that are read as nothing or as an internal address are
passed over. So the first entry that spells an address from outside decides, whatever stands behind
it.

## Main definitions

- `Forwarded.Skipped` — an entry that is passed over
- `Forwarded.Spells` — an entry that spells an address
- `Forwarded.Names` — a list whose first entry that is not passed over spells an address

## Main statements

- `Forwarded.readEntry?_of_spells` — an address is read from an entry that spells it
- `Forwarded.firstPublic?_of_names`, `Forwarded.firstPublic?_eq_none_iff` — what a list comes to
-/

namespace Turnstile

/-! ### What addresses are not spelled with -/

theorem Address.not_blank_of_spells {c : Char} (h : Spells c) :
    Text.isBlank c = false ∧ c ≠ ',' ∧ c ≠ '[' ∧ c ≠ ']' := by
  have hdigits : ∀ d < 16, Text.isBlank (Nat.digitChar d) = false ∧ Nat.digitChar d ≠ ',' ∧
      Nat.digitChar d ≠ '[' ∧ Nat.digitChar d ≠ ']' := by decide
  rcases h with rfl | rfl | ⟨d, hd, rfl⟩
  · decide
  · decide
  · exact hdigits d hd

theorem Address.spells_of_mem_chars {a : Address} {c : Char} (h : c ∈ a.chars) : Spells c := by
  rw [← String.toList_ofList (l := a.chars)] at h
  exact spells_of_mem_render h

theorem Address.chars_ne_nil (a : Address) : a.chars ≠ [] := by
  intro h
  have hread := a.readChars?_chars
  rw [h] at hread
  cases hread

namespace Forwarded

/-- An entry that is passed over: no address is read from it, or an internal one. -/
def Skipped (entry : List Char) : Prop :=
  ∀ x, readEntry? entry = some x → x.isInternal = true

instance (entry : List Char) : Decidable (Skipped entry) :=
  decidable_of_iff _ <| Option.all_eq_true Address.isInternal <| readEntry? entry

/-- An entry spells an address: its canonical text, perhaps in brackets, and perhaps with blanks
around. -/
def Spells (a : Address) (entry : List Char) : Prop :=
  ∃ before after, (∀ c ∈ before, Text.isBlank c = true) ∧ (∀ c ∈ after, Text.isBlank c = true) ∧
    (entry = before ++ (a.chars ++ after) ∨ entry = before ++ ('[' :: a.chars ++ [']'] ++ after))

/-- A list names an address: some entries that are passed over, one that spells the address, and
then nothing, or a comma and anything. -/
def Names (a : Address) (list : List Char) : Prop :=
  ∃ skipped entry, (∀ e ∈ skipped, ',' ∉ e ∧ Skipped e) ∧ Spells a entry ∧
    (list = Text.join ',' (skipped ++ [entry]) ∨
      ∃ more, list = Text.join ',' (skipped ++ [entry]) ++ ',' :: more)

variable {a : Address} {entry : List Char}

/-! ### Entries -/

theorem unbracket_chars (a : Address) : unbracket a.chars = a.chars := by
  unfold unbracket
  split
  · next rest hchars =>
    have hmem : '[' ∈ a.chars := hchars ▸ List.mem_cons_self
    exact absurd rfl (Address.not_blank_of_spells (Address.spells_of_mem_chars hmem)).2.2.1
  · rfl

theorem unbracket_brackets (cs : List Char) : unbracket ('[' :: cs ++ [']']) = cs := by
  simp [unbracket]

theorem trim_of_spells (h : Spells a entry) :
    Text.trim entry = a.chars ∨ Text.trim entry = '[' :: a.chars ++ [']'] := by
  have hchars : ∀ c ∈ a.chars, Text.isBlank c = false := fun c hc =>
    (Address.not_blank_of_spells (Address.spells_of_mem_chars hc)).1
  obtain ⟨before, after, hbefore, hafter, rfl | rfl⟩ := h
  · exact Or.inl (Text.trim_append a.chars_ne_nil hchars hbefore hafter)
  · refine Or.inr (Text.trim_append (by simp) ?_ hbefore hafter)
    intro c hc
    rcases List.mem_append.1 hc with hc | hc
    · rcases List.mem_cons.1 hc with rfl | hc
      · decide
      · exact hchars c hc
    · rw [List.mem_singleton.1 hc]
      decide

theorem readEntry?_of_spells (h : Spells a entry) : readEntry? entry = some a := by
  unfold readEntry?
  rcases trim_of_spells h with htrim | htrim
  · rw [htrim, unbracket_chars, a.readChars?_chars]
  · rw [htrim, unbracket_brackets, a.readChars?_chars]

theorem comma_not_mem_of_spells (h : Spells a entry) : ',' ∉ entry := by
  have hchars : ',' ∉ a.chars := fun hc =>
    (Address.not_blank_of_spells (Address.spells_of_mem_chars hc)).2.1 rfl
  obtain ⟨before, after, hbefore, hafter, hentry⟩ := h
  have hblank : ¬Text.isBlank ',' = true := by decide
  have hfront : ',' ∉ before := fun hc => hblank (hbefore _ hc)
  have hback : ',' ∉ after := fun hc => hblank (hafter _ hc)
  rcases hentry with rfl | rfl
  · simp [hfront, hchars, hback]
  · simp [hfront, hchars, hback]

/-! ### Lists -/

/-- A list comes to nothing exactly if all its entries are passed over. -/
theorem firstPublic?_eq_none_iff {list : String} :
    firstPublic? list = none ↔ ∀ entry ∈ Text.split ',' list.toList, Skipped entry := by
  simp only [firstPublic?, List.find?_eq_none, List.mem_filterMap, Bool.not_eq_true',
    Bool.not_eq_false]
  constructor
  · intro h entry hentry x hx
    exact h x ⟨entry, hentry, hx⟩
  · rintro h x ⟨entry, hentry, hx⟩
    exact h entry hentry x hx

/-- The first entry that is not passed over decides. -/
theorem find?_readEntry? {skipped : List (List Char)} (hskipped : ∀ e ∈ skipped, Skipped e)
    (hentry : readEntry? entry = some a) (outside : a.isInternal = false)
    (more : List (List Char)) :
    ((skipped ++ entry :: more).filterMap readEntry?).find? (fun x => !x.isInternal) = some a := by
  induction skipped with
  | nil =>
    rw [List.nil_append, List.filterMap_cons_some hentry,
      List.find?_cons_of_pos (by simp [outside])]
  | cons e rest ih =>
    have hlater := ih fun e' he' => hskipped e' (List.mem_cons_of_mem _ he')
    cases hread : readEntry? e with
    | none => rw [List.cons_append, List.filterMap_cons_none hread, hlater]
    | some x =>
      have hinternal : x.isInternal = true := hskipped e List.mem_cons_self x hread
      rw [List.cons_append, List.filterMap_cons_some hread,
        List.find?_cons_of_neg (by simp [hinternal]), hlater]

theorem firstPublic?_of_names {list : String} (names : Names a list.toList)
    (outside : a.isInternal = false) :
    firstPublic? list = some a := by
  obtain ⟨skipped, entry, hskipped, hspells, hlist⟩ := names
  have hne : skipped ++ [entry] ≠ [] := by simp
  have hcomma : ∀ e ∈ skipped ++ [entry], ',' ∉ e := by
    intro e he
    rcases List.mem_append.1 he with he | he
    · exact (hskipped e he).1
    · rw [List.mem_singleton.1 he]
      exact comma_not_mem_of_spells hspells
  -- whatever follows, the entries up to the one that spells the address are cut apart
  obtain ⟨more, hsplit⟩ : ∃ more, Text.split ',' list.toList = skipped ++ entry :: more := by
    rcases hlist with hlist | ⟨more, hlist⟩
    · exact ⟨[], by rw [hlist, Text.split_join hne hcomma]⟩
    · exact ⟨Text.split ',' more, by rw [hlist,
        Text.split_join_append hne hcomma, ← List.append_cons]⟩
  rw [firstPublic?, hsplit]
  exact find?_readEntry? (fun e he => (hskipped e he).2) (readEntry?_of_spells hspells) outside more

end Forwarded

end Turnstile
