import Turnstile.Proofs.Yaml.Allowed
import Turnstile.Proofs.Yaml.Nodes
import Turnstile.Proofs.Yaml.Tokens

/-!
# Trees are printed as their nodes

The text of a tree has just the tokens of the tree's node. A thing without parts is one line, or the
lines of one scalar; the items of a list and the entries of a record are read one after another, and
the blocks that they are in are closed by the first line that is not as deep.

## Main definitions

- `Yaml.IsKey` — the names that are printed as plain keys
- `Yaml.IsRead` — what is printed for a tree is read as its tokens, after a dash and after a colon
- `Yaml.IsPart` — what is written at a column is read as parts of a block

## Main statements

- `Yaml.isRead_of_simple` — what is printed for a simple tree is read as its tokens
- `Yaml.ofText?_render` — the tokens of a record's text
-/

namespace Turnstile.Yaml

variable {v : View} {next : List Char} {m n : Nat}

/-! ### Things without parts -/

theorem endLine_append_singleton (cs : List Char) {x : Char} (hx : isBreakChar x = false) :
    endLine (cs ++ [x]) = cs ++ [x, '\n'] := by
  rw [endLine, List.getLast?_concat, Option.any_some, hx]
  simp

theorem PlainText.endLine_eq {cs : List Char} (h : PlainText cs) : endLine cs = cs ++ ['\n'] := by
  obtain ⟨x, xs, rfl⟩ := List.exists_cons_of_ne_nil h.ne_nil
  obtain ⟨front, y, hlast⟩ := exists_append_singleton x xs
  rw [hlast] at h ⊢
  rw [endLine_append_singleton front (h.flat y (by simp)).1, List.append_assoc]
  rfl

theorem stops_endLine_cons {p : Char → Bool} {x : Char} (hx : p x = false) (cs tail : List Char) :
    Text.Stops p (endLine (x :: cs) ++ tail) := by
  obtain ⟨later, hlater⟩ := exists_endLine_cons x cs
  rw [hlater]
  exact Text.stops_cons.2 hx

/-- With a view, what is written up to a line that is at most as deep as `n` is read as tokens. -/
def View.Yields (v : View) (n : Nat) (written : List Char) (tokens : List Token) : Prop :=
  ∀ (m : Nat) (next : List Char), v.rest = written ++ (spaces m ++ next) → m ≤ n →
    Text.Stops interrupts next →
    Reads v { v with
      rest := next, column := m, tokens := tokens.reverse ++ v.tokens, keyAllowed := true }

theorem yields_plain {s : String} (h : PlainText s.toList) (hindent : v.indent = n)
    (hcolumn : n < v.column) :
    v.Yields n (endLine s.toList) [.scalar .plain s] := by
  intro m next hrest hm hnext
  rw [h.endLine_eq, List.append_assoc] at hrest
  exact .plain h hrest (stops_separates hnext) (by omega) (by omega)

/-- A text is read in the style that it is printed in. -/
theorem yields_text (s : String) (hindent : v.indent = n) (hcolumn : n < v.column) :
    v.Yields n (endLine (scalarText (n + 2) (Style.ofText s) s.toList))
      [.scalar (Style.ofText s) s] := by
  have hdeep : v.indent < v.column := by omega
  cases hstyle : Style.ofText s with
  | plain => exact yields_plain (.of_style hstyle) hindent hcolumn
  | singleQuoted =>
    intro m next hrest hm hnext
    rw [scalarText, endLine_append_singleton _ rfl] at hrest
    have hquoted : Quoted true (singleQuoted (n + 2) false s.toList) s.toList :=
      quoted_single (.of_style hstyle)
    refine .quoted hquoted (hrest.trans ?_) hnext hdeep
    simp [quoteMark]
  | doubleQuoted =>
    intro m next hrest hm hnext
    rw [scalarText, endLine_append_singleton _ rfl] at hrest
    refine .quoted (quoted_double s.toList) (hrest.trans ?_) hnext hdeep
    simp [quoteMark]
  | literal =>
    intro m next hrest hm hnext
    obtain ⟨hne, hprintable⟩ := Style.ofText_eq_literal hstyle
    rw [scalarText, endLine_literal hne, List.append_assoc] at hrest
    exact .literal hne hprintable hrest (stops_separates hnext) hindent hcolumn hm
  | folded => exact absurd hstyle (Style.ofText_ne_folded s)

theorem yields_emptyList (hindent : v.indent = n) (hcolumn : n < v.column) :
    v.Yields n (endLine ['[', ']']) [.flowSequenceStart, .flowSequenceEnd] := by
  intro m next hrest hm hnext
  exact .emptyFlow token?_openList token?_closeList rfl rfl hrest hnext (by omega)

theorem yields_emptyMap (hindent : v.indent = n) (hcolumn : n < v.column) :
    v.Yields n (endLine ['\x7b', '\x7d']) [.flowMappingStart, .flowMappingEnd] := by
  intro m next hrest hm hnext
  exact .emptyFlow token?_openMap token?_closeMap rfl rfl hrest hnext (by omega)

/-! ### What is printed for a tree -/

/-- What is printed for a tree is read as its tokens, after the dash of an item and after the colon
of an entry, and holds only characters that a text may hold. -/
structure IsRead (x : Data) : Prop where
  item : ∀ {n : Nat} {v : View}, v.indent = n → v.column = n + 2 → v.keyAllowed = true →
    v.Yields n (Yaml.item n x) ((Node.ofData x).tokens false)
  entry : ∀ {n : Nat} {v : View}, v.indent = n → n < v.column →
    v.Yields n (entryValue n x) ((Node.ofData x).tokens true)
  begins : ∀ (n : Nat) (tail : List Char), Text.Stops interrupts (Yaml.item n x ++ tail)
  allowedItem : ∀ n, Allowed (Yaml.item n x)
  allowedEntry : ∀ n, Allowed (entryValue n x)

/-- A thing without parts stands on the line of its dash or colon. -/
theorem isRead_leaf {x : Data} {tokens : List Token}
    (hitem : ∀ n, Yaml.item n x = endLine (leaf (n + 2) x))
    (hentry : ∀ n, entryValue n x = ' ' :: endLine (leaf (n + 2) x))
    (htokens : ∀ inEntry, (Node.ofData x).tokens inEntry = tokens)
    (hbegins : ∀ n tail, Text.Stops interrupts (endLine (leaf (n + 2) x) ++ tail))
    (hallowed : ∀ indent, Allowed (leaf indent x))
    (hyields : ∀ {n : Nat} {v : View}, v.indent = n → n < v.column →
      v.Yields n (endLine (leaf (n + 2) x)) tokens) :
    IsRead x where
  item := by
    intro n v hindent hcolumn hkey
    rw [hitem, htokens]
    exact hyields hindent (by omega)
  entry := by
    intro n v hindent hcolumn m next hrest hm hnext
    rw [hentry, List.cons_append] at hrest
    rw [htokens]
    let after : View :=
      { v with rest := endLine (leaf (n + 2) x) ++ (spaces m ++ next), column := v.column + 1 }
    have hspace : Reads v after := .spaces (k := 1) hrest (hbegins n (spaces m ++ next))
    have hdeep : n < after.column := Nat.lt_succ_of_lt hcolumn
    exact hspace.trans (hyields (v := after) hindent hdeep m next rfl hm hnext)
  begins := by
    intro n tail
    rw [hitem]
    exact hbegins n tail
  allowedItem := by
    intro n
    rw [hitem]
    exact allowed_endLine (hallowed _)
  allowedEntry := by
    intro n
    rw [hentry, allowed_cons]
    exact ⟨rfl, allowed_endLine (hallowed _)⟩

theorem isRead_plain {x : Data} {s : String} (hleaf : ∀ indent, leaf indent x = s.toList)
    (h : PlainText s.toList) (hitem : ∀ n, Yaml.item n x = endLine (leaf (n + 2) x))
    (hentry : ∀ n, entryValue n x = ' ' :: endLine (leaf (n + 2) x))
    (htokens : ∀ inEntry, (Node.ofData x).tokens inEntry = [.scalar .plain s]) : IsRead x := by
  refine isRead_leaf hitem hentry htokens (fun n tail => ?_) (fun indent => ?_)
    fun hindent hcolumn => ?_
  · rw [hleaf, h.endLine_eq, List.append_assoc]
    exact h.stops_interrupts _
  · rw [hleaf]
    exact allowed_of_printable h.printable
  · rw [hleaf]
    exact yields_plain h hindent hcolumn

theorem isRead_null : IsRead .null :=
  isRead_plain (s := "null") (fun _ => rfl) (.of_isAlphanum (by decide) (by decide)) (fun _ => rfl)
    (fun _ => rfl)
    fun _ => rfl

theorem isRead_bool (b : Bool) : IsRead (.bool b) := by
  refine isRead_plain (s := if b then "true" else "false") (fun _ => rfl) ?_ (fun _ => rfl)
    (fun _ => rfl)
    fun _ => rfl
  cases b <;> exact .of_isAlphanum (by decide) (by decide)

theorem isRead_nat (n : Nat) : IsRead (.nat n) := by
  have hdigits : PlainText (toString n).toList := by
    refine .of_isAlphanum ?_ (List.all_eq_true.2 fun c hc => ?_)
    · simp
    · simp [Char.isAlphanum, isDigit_of_mem_toString hc]
  exact isRead_plain (x := .int n) (s := toString n) (fun _ => rfl) hdigits (fun _ => rfl)
    (fun _ => rfl) fun _ => rfl

theorem isRead_text (s : String) : IsRead (.text s) := by
  refine isRead_leaf (fun _ => rfl) (fun _ => rfl) (fun _ => rfl)
    (fun n tail => ?_) (fun indent => allowed_scalarText indent s) (yields_text s)
  rw [leaf]
  cases hstyle : Style.ofText s with
  | plain =>
    have hplain := PlainText.of_style hstyle
    rw [scalarText, hplain.endLine_eq, List.append_assoc]
    exact hplain.stops_interrupts _
  | singleQuoted => exact stops_endLine_cons rfl _ tail
  | doubleQuoted => exact stops_endLine_cons rfl _ tail
  | literal =>
    rw [scalarText, literalHeader_eq]
    exact stops_endLine_cons rfl _ tail
  | folded => exact absurd hstyle (Style.ofText_ne_folded s)

theorem isRead_emptyList : IsRead (.list []) := by
  refine isRead_leaf (fun _ => rfl) (fun _ => rfl) (fun _ => rfl)
    (fun _ _ => Text.stops_cons.2 rfl) (fun _ => ?_)
    yields_emptyList
  have hmarks : isAllowed '[' = true ∧ isAllowed ']' = true := by decide
  simp [leaf, hmarks]

theorem isRead_emptyMap : IsRead (.map []) := by
  refine isRead_leaf (fun _ => rfl) (fun _ => rfl) (fun _ => rfl)
    (fun _ _ => Text.stops_cons.2 rfl) (fun _ => ?_)
    yields_emptyMap
  have hmarks : isAllowed '\x7b' = true ∧ isAllowed '\x7d' = true := by decide
  simp [leaf, hmarks]

/-! ### Parts of blocks -/

/-- What is written at a column is read as parts of the block that begins there, whatever the view
is. The block is opened if need be. -/
def IsPart (start : Token) (n : Nat) (written : List Char) (tokens : List Token) : Prop :=
  ∀ (v : View) (m : Nat) (next : List Char), v.rest = written ++ (spaces m ++ next) →
    Text.Stops interrupts next → m ≤ n →
    v.indent ≤ v.column → v.column = n → v.keyAllowed = true →
    Reads v { v.opened start with
      rest := next, column := m, keyAllowed := true,
      tokens := tokens.reverse ++ (v.opened start).tokens }

namespace IsPart

variable {start : Token} {written written' : List Char} {tokens tokens' : List Token}

/-- Parts are read one after another. -/
theorem append (h : IsPart start n written tokens) (h' : IsPart start n written' tokens')
    (hstops : ∀ tail, Text.Stops interrupts (written' ++ tail)) :
    IsPart start n (written ++ (spaces n ++ written')) (tokens ++ tokens') := by
  intro v m next hrest hnext hm hindent hcolumn hkey
  let between : View := { v.opened start with
    rest := written' ++ (spaces m ++ next), column := n, keyAllowed := true,
    tokens := tokens.reverse ++ (v.opened start).tokens }
  have hfirst : Reads v between :=
    h v n _ (hrest.trans (by simp)) (hstops _) (Nat.le_refl n) hindent hcolumn hkey
  -- the first part has opened the block for the others
  have hopen : between.indent = n := (View.indent_opened hindent).trans (congrArg _ hcolumn)
  have hothers := h' between m next rfl hnext hm (Int.le_of_eq hopen) rfl rfl
  rw [View.opened_of_le (Int.le_of_eq hopen.symm)] at hothers
  refine hfirst.trans ?_
  rw [List.reverse_append, List.append_assoc]
  exact hothers

/-- At the column of the open block nothing is opened. -/
theorem of_open (h : IsPart start n written tokens) (hrest : v.rest = written ++ (spaces m ++ next))
    (hnext : Text.Stops interrupts next) (hm : m ≤ n) (hindent : v.indent = n)
    (hcolumn : v.column = n) (hkey : v.keyAllowed = true) :
    Reads v { v with
      rest := next, column := m, keyAllowed := true, tokens := tokens.reverse ++ v.tokens } := by
  have hparts := h v m next hrest hnext hm (by omega) hcolumn hkey
  rwa [View.opened_of_le (by omega)] at hparts

/-- A deeper block is opened, read and closed again by a line that is not as deep. -/
theorem of_deeper (h : IsPart start n written tokens)
    (hrest : v.rest = written ++ (spaces m ++ next)) (hnext : Text.Stops interrupts next)
    (hm : m < n) (hindent : v.indent < n) (hcolumn : v.column = n) (hkey : v.keyAllowed = true) :
    Reads v { v with
      rest := next, column := m, keyAllowed := true,
      tokens := (start :: tokens ++ [Token.blockEnd]).reverse ++ v.tokens } := by
  have hdeep : v.indent < v.column := by omega
  have hlow : (m : Int) < v.column := by omega
  have hparts := h v m next hrest hnext (Nat.le_of_lt hm) (Int.le_of_lt hdeep) hcolumn hkey
  rw [View.opened_of_lt hdeep] at hparts
  have hpop := hparts.trans (.pop hnext hlow rfl)
  simpa using hpop

end IsPart

/-! ### Lists -/

/-- An item with its dash is a part of a sequence. -/
theorem IsRead.isPart_item {x : Data} (h : IsRead x) (n : Nat) :
    IsPart .blockSequenceStart n ('-' :: ' ' :: Yaml.item n x)
      (.blockEntry :: (Node.ofData x).tokens false) := by
  intro v m next hrest hnext hm hindent hcolumn hkey
  let dashed : View := { v.opened .blockSequenceStart with
    rest := ' ' :: (Yaml.item n x ++ (spaces m ++ next)), column := v.column + 1,
    keyAllowed := true, tokens := .blockEntry :: (v.opened .blockSequenceStart).tokens }
  let front : View :=
    { dashed with rest := Yaml.item n x ++ (spaces m ++ next), column := v.column + 1 + 1 }
  have hdash : Reads v dashed := .dash hrest hindent hkey
  have hspace : Reads dashed front := .spaces (k := 1) rfl (h.begins n _)
  have hfront : front.indent = n := (View.indent_opened hindent).trans (congrArg _ hcolumn)
  have hfrontColumn : front.column = n + 2 := congrArg (· + 2) hcolumn
  have hitem := h.item hfront hfrontColumn rfl m next rfl hm hnext
  refine hdash.trans (hspace.trans ?_)
  rw [List.reverse_cons, List.append_assoc]
  exact hitem

theorem items_cons (n : Nat) (x : Data) (xs : List Data) (hne : xs ≠ []) :
    items n (x :: xs) = '-' :: ' ' :: item n x ++ (spaces n ++ items n xs) := by
  obtain ⟨y, ys, rfl⟩ := List.exists_cons_of_ne_nil hne
  rw [items, List.append_assoc]
  nofun

theorem stops_items {xs : List Data} (hne : xs ≠ []) (n : Nat) (tail : List Char) :
    Text.Stops interrupts (items n xs ++ tail) := by
  obtain ⟨x, xs, rfl⟩ := List.exists_cons_of_ne_nil hne
  by_cases hlast : xs = []
  · rw [hlast, items]
    exact Text.stops_cons.2 rfl
  · rw [items_cons n x xs hlast]
    exact Text.stops_cons.2 rfl

/-- The items of a list are parts of a sequence. -/
theorem isPart_items {xs : List Data} (h : ∀ x ∈ xs, IsRead x) (hne : xs ≠ []) (n : Nat) :
    IsPart .blockSequenceStart n (items n xs) (Node.itemTokens (Node.ofItems xs)) := by
  induction xs with
  | nil => exact absurd rfl hne
  | cons x xs ih =>
    obtain ⟨hx, hxs⟩ := List.forall_mem_cons.1 h
    have hitem := hx.isPart_item n
    rw [Node.ofItems, Node.itemTokens]
    by_cases hlast : xs = []
    · rw [hlast, items, Node.ofItems, Node.itemTokens, List.append_nil]
      exact hitem
    · rw [items_cons n x xs hlast]
      exact hitem.append (ih hxs hlast) (stops_items hlast n)

theorem allowed_items {xs : List Data} (h : ∀ x ∈ xs, IsRead x) (n : Nat) :
    Allowed (items n xs) := by
  have hdash : isAllowed '-' = true ∧ isAllowed ' ' = true := by decide
  induction xs with
  | nil => simp [items]
  | cons x xs ih =>
    obtain ⟨hx, hxs⟩ := List.forall_mem_cons.1 h
    by_cases hlast : xs = []
    · simp [hlast, items, hdash, hx.allowedItem]
    · simp [items_cons n x xs hlast, hdash, hx.allowedItem, ih hxs]

/-! ### Records -/

/-- The names that are printed as plain keys, near enough to their colon. -/
def IsKey (name : String) : Prop := Style.ofText name = .plain ∧ name.toList.length ≤ 1024

/-- An entry from a name. -/
def namedEntry (e : String × Data) : Data × Data := (.text e.1, e.2)

theorem wordEnds_entryValue (n : Nat) (x : Data) (tail : List Char) :
    Cursor.wordEnds (entryValue n x ++ tail) = true := by
  unfold entryValue
  split <;> rfl

theorem leaf_of_isKey {name : String} (h : IsKey name) (indent : Nat) :
    leaf indent (.text name) = name.toList := by
  rw [leaf, h.1, scalarText]

/-- An entry with its key is a part of a mapping. -/
theorem IsRead.isPart_entry {e : String × Data} (h : IsRead e.2) (hkey : IsKey e.1) (n : Nat) :
    IsPart .blockMappingStart n (e.1.toList ++ ':' :: entryValue n e.2)
      (.key :: .scalar .plain e.1 :: .value :: (Node.ofData e.2).tokens true) := by
  intro v m next hrest hnext hm hindent hcolumn hallowed
  let keyed : View := { v.opened .blockMappingStart with
    rest := entryValue n e.2 ++ (spaces m ++ next), column := v.column + e.1.toList.length + 1,
    keyAllowed := false, tokens := .value :: .scalar .plain e.1 :: .key ::
      (v.opened .blockMappingStart).tokens }
  have hread : Reads v keyed :=
    .key (.of_style hkey.1) hkey.2 (hrest.trans (by simp)) (wordEnds_entryValue ..) hindent hallowed
  have hopen : keyed.indent = n := (View.indent_opened hindent).trans (congrArg _ hcolumn)
  have hdeep : n < keyed.column := by
    change n < v.column + e.1.toList.length + 1
    omega
  have hvalue := h.entry hopen hdeep m next rfl hm hnext
  refine hread.trans ?_
  simp only [List.reverse_cons, List.append_assoc, List.singleton_append]
  exact hvalue

theorem entries_cons (n : Nat) {e : String × Data} {es : List (String × Data)} (hkey : IsKey e.1)
    (hne : es ≠ []) :
    entries n ((e :: es).map namedEntry) =
      e.1.toList ++ ':' :: entryValue n e.2 ++ (spaces n ++ entries n (es.map namedEntry)) := by
  obtain ⟨f, fs, rfl⟩ := List.exists_cons_of_ne_nil hne
  rw [List.map_cons, List.map_cons, namedEntry, entries, leaf_of_isKey hkey, List.append_assoc]
  nofun

theorem stops_entries {es : List (String × Data)} (hkeys : ∀ e ∈ es, IsKey e.1)
    (hne : es ≠ []) (n : Nat) (tail : List Char) :
    Text.Stops interrupts (entries n (es.map namedEntry) ++ tail) := by
  obtain ⟨e, es, rfl⟩ := List.exists_cons_of_ne_nil hne
  have hkey := hkeys e List.mem_cons_self
  have hplain := PlainText.of_style hkey.1
  by_cases hlast : es = []
  · subst hlast
    rw [List.map_cons, List.map_nil, namedEntry, entries, leaf_of_isKey hkey, List.append_assoc]
    exact hplain.stops_interrupts _
  · rw [entries_cons n hkey hlast, List.append_assoc, List.append_assoc]
    exact hplain.stops_interrupts _

theorem entryTokens_cons {e : String × Data} (es : List (String × Data)) (hkey : IsKey e.1) :
    Node.entryTokens (Node.ofEntries ((e :: es).map namedEntry)) =
      .key :: .scalar .plain e.1 :: .value :: (Node.ofData e.2).tokens true ++
        Node.entryTokens (Node.ofEntries (es.map namedEntry)) := by
  rw [List.map_cons, namedEntry, Node.ofEntries, Node.entryTokens, Node.ofData, hkey.1]
  simp [Node.tokens]

/-- The entries of a record are parts of a mapping. -/
theorem isPart_entries {es : List (String × Data)} (hkeys : ∀ e ∈ es, IsKey e.1)
    (h : ∀ e ∈ es, IsRead e.2) (hne : es ≠ []) (n : Nat) :
    IsPart .blockMappingStart n (entries n (es.map namedEntry))
      (Node.entryTokens (Node.ofEntries (es.map namedEntry))) := by
  induction es with
  | nil => exact absurd rfl hne
  | cons e es ih =>
    obtain ⟨hkey, hkeys⟩ := List.forall_mem_cons.1 hkeys
    obtain ⟨he, hes⟩ := List.forall_mem_cons.1 h
    have hentry := he.isPart_entry hkey n
    rw [entryTokens_cons es hkey]
    by_cases hlast : es = []
    · rw [hlast, List.map_cons, List.map_nil, namedEntry, entries, leaf_of_isKey hkey,
        Node.ofEntries, Node.entryTokens, List.append_nil]
      exact hentry
    · rw [entries_cons n hkey hlast]
      exact hentry.append (ih hkeys hes hlast) (stops_entries hkeys hlast n)

theorem allowed_entries {es : List (String × Data)} (hkeys : ∀ e ∈ es, IsKey e.1)
    (h : ∀ e ∈ es, IsRead e.2) (n : Nat) :
    Allowed (entries n (es.map namedEntry)) := by
  have hcolon : isAllowed ':' = true := rfl
  induction es with
  | nil => simp [entries]
  | cons e es ih =>
    obtain ⟨hkey, hkeys⟩ := List.forall_mem_cons.1 hkeys
    obtain ⟨he, hes⟩ := List.forall_mem_cons.1 h
    have hname : Allowed e.1.toList := allowed_of_printable (PlainText.of_style hkey.1).printable
    by_cases hlast : es = []
    · simp [hlast, entries, namedEntry, leaf_of_isKey hkey, hcolon, hname, he.allowedEntry]
    · rw [entries_cons n hkey hlast]
      simp [hcolon, hname, he.allowedEntry, ih hkeys hes]

/-! ### Trees -/

theorem isRead_list {xs : List Data} (h : ∀ x ∈ xs, IsRead x) (hne : xs ≠ []) :
    IsRead (.list xs) := by
  obtain ⟨x, rest, rfl⟩ := List.exists_cons_of_ne_nil hne
  have hbreak : isAllowed '\n' = true := rfl
  refine ⟨?_, ?_, fun n tail => ?_, fun n => ?_, fun n => ?_⟩
  · intro n v hindent hcolumn hkey m next hrest hm hnext
    rw [Yaml.item] at hrest
    exact (isPart_items h hne (n + 2)).of_deeper hrest hnext (by omega) (by omega) hcolumn hkey
  · intro n v hindent hcolumn m next hrest hm hnext
    rw [entryValue] at hrest
    let first : View :=
      { v with rest := items n (x :: rest) ++ (spaces m ++ next), column := n, keyAllowed := true }
    have hline : Reads v first := .line (hrest.trans (by simp)) (stops_items hne n _)
    exact hline.trans ((isPart_items h hne n).of_open rfl hnext hm hindent rfl rfl)
  · rw [Yaml.item]
    exact stops_items hne (n + 2) tail
  · rw [Yaml.item]
    exact allowed_items h (n + 2)
  · rw [entryValue]
    simp [hbreak, allowed_items h]

theorem tokens_record {es : List (String × Data)} (hne : es ≠ []) {inEntry : Bool} :
    (Node.ofData (.record es)).tokens inEntry =
      .blockMappingStart ::
        Node.entryTokens (Node.ofEntries (es.map namedEntry)) ++ [.blockEnd] := by
  obtain ⟨e, es, rfl⟩ := List.exists_cons_of_ne_nil hne
  change (Node.ofData (.map (namedEntry e :: es.map namedEntry))).tokens inEntry = _
  rw [List.map_cons, Node.ofData, Node.ofEntries, Node.tokens]

theorem isRead_record {es : List (String × Data)} (hkeys : ∀ e ∈ es, IsKey e.1)
    (h : ∀ e ∈ es, IsRead e.2) (hne : es ≠ []) : IsRead (.record es) := by
  have hrecord : Data.record es = .map (es.map namedEntry) := rfl
  obtain ⟨d, ds, hcons⟩ :=
    List.exists_cons_of_ne_nil (mt List.map_eq_nil_iff.1 hne : es.map namedEntry ≠ [])
  have hitem : ∀ n, Yaml.item n (.record es) = entries (n + 2) (es.map namedEntry) := by
    intro n
    rw [hrecord, hcons, Yaml.item]
  have hentry : ∀ n, entryValue n (.record es) = '\n' ::
      (spaces (n + 2) ++ entries (n + 2) (es.map namedEntry)) := by
    intro n
    rw [hrecord, hcons, entryValue]
    rfl
  have hbreak : isAllowed '\n' = true := rfl
  refine ⟨?_, ?_, fun n tail => ?_, fun n => ?_, fun n => ?_⟩
  · intro n v hindent hcolumn hkey m next hrest hm hnext
    rw [hitem] at hrest
    rw [tokens_record hne]
    exact (isPart_entries hkeys h hne (n + 2)).of_deeper hrest hnext (by omega)
      (by omega) hcolumn hkey
  · intro n v hindent hcolumn m next hrest hm hnext
    rw [hentry] at hrest
    rw [tokens_record hne]
    let first : View := { v with
      rest := entries (n + 2) (es.map namedEntry) ++ (spaces m ++ next), column := n + 2,
      keyAllowed := true }
    have hline : Reads v first := .line (hrest.trans (by simp)) (stops_entries hkeys hne (n + 2) _)
    have hdeep : v.indent < ((n + 2 : Nat) : Int) := by omega
    exact hline.trans
      ((isPart_entries hkeys h hne (n + 2)).of_deeper rfl hnext (by omega) hdeep rfl rfl)
  · rw [hitem]
    exact stops_entries hkeys hne (n + 2) tail
  · rw [hitem]
    exact allowed_entries hkeys h (n + 2)
  · rw [hentry]
    simp [hbreak, allowed_entries hkeys h]

/-- What is printed for a simple tree is read as its tokens. -/
theorem isRead_of_simple {x : Data} {depth : Nat} (h : x.Simple IsKey depth) : IsRead x := by
  induction h with
  | null => exact isRead_null
  | bool b => exact isRead_bool b
  | @nat _ n _ => exact isRead_nat n
  | text s => exact isRead_text s
  | @list _ items _ ih =>
    by_cases hne : items = []
    · exact hne ▸ isRead_emptyList
    · exact isRead_list ih hne
  | @record _ entries keys _ ih =>
    by_cases hne : entries = []
    · exact hne ▸ isRead_emptyMap
    · exact isRead_record keys ih hne

/-! ### Whole texts -/

/-- At the end of a text that is one mapping the mapping is closed. -/
theorem View.Of.exists_run?_end {l : Lexer} {tokens : List Token} {allowed : Bool}
    (h : View.Of ⟨[], 0, tokens, 0, [-1], allowed⟩ l) (fuel : Nat) :
    ∃ l', Lexer.run? (fuel + 1) l = some l' ∧ l'.tokens = .blockEnd :: tokens := by
  obtain ⟨k, hrefresh, hk⟩ := Lexer.exists_refresh? h.candidate l.cursor
  let last : Lexer := { l with candidate := k }
  have hlast : View.Of ⟨[], 0, tokens, 0, [-1], allowed⟩ last := h.withCandidate hk
  have hrun : Lexer.run? (fuel + 1) l = last.finish? := by
    have hend : last.cursor.atEnd = true := List.isEmpty_iff.2 hlast.rest
    have hclose : last.closeTo last.cursor.column = last :=
      Lexer.closeTo_of_le (by rw [hlast.indent, hlast.column]; exact Int.le_refl 0)
    rw [Lexer.run?_succ (by rw [h.rest]; exact Text.stops_nil _) h.block hrefresh,
      Lexer.resume?, hclose, hend]
    rfl
  have hpop : last.closeTo (-1) = last.pop (-1) [] := by
    have hopen : (-1 : Int) < last.indent := by
      rw [hlast.indent]
      exact Int.negSucc_lt_zero 0
    rw [Lexer.closeTo_of_lt hopen hlast.outer hlast.block]
    exact Lexer.closeTo_of_le (Int.le_refl (-1))
  have hgiven : (last.pop (-1) []).dropCandidate? =
      some { last.pop (-1) [] with candidate := { k with possible := false } } := by
    have hk' : ((last.pop (-1) []).candidate.possible && (last.pop (-1) []).candidate.required) =
        false := hk
    rw [Lexer.dropCandidate?, hk']
    rfl
  refine ⟨_, by rw [hrun, Lexer.finish?, hpop, hgiven], congrArg _ hlast.tokens⟩

/-- The text of a record has just the tokens of its node. -/
theorem ofText?_render {es : List (String × Data)} {depth : Nat}
    (h : (Data.record es).Simple IsKey (depth + 1)) (hne : es ≠ []) :
    Token.ofText? (render (.record es)) = some ((Node.ofData (.record es)).tokens false) := by
  obtain ⟨hkeys, parts⟩ := h.of_record
  have hread : ∀ e ∈ es, IsRead e.2 := fun e he => isRead_of_simple (parts e he)
  obtain ⟨d, ds, hcons⟩ :=
    List.exists_cons_of_ne_nil (mt List.map_eq_nil_iff.1 hne : es.map namedEntry ≠ [])
  have hrender : render (.record es) = entries 0 (es.map namedEntry) := by
    change render (.map (es.map namedEntry)) = _
    rw [hcons, render]
  have hallowed : (render (.record es)).all isAllowed = true := by
    rw [hrender]
    exact List.all_eq_true.2 (allowed_entries hkeys hread 0)
  let start : View := ⟨render (.record es), 0, [], -1, [], true⟩
  let first : Lexer := { cursor := { rest := render (.record es) } }
  have hfirst : start.Of first := ⟨rfl, rfl, rfl, rfl, rfl, rfl, rfl, rfl, rfl⟩
  have hdeep : start.indent < start.column := Int.negSucc_lt_zero 0
  have hrest : start.rest = entries 0 (es.map namedEntry) ++ (spaces 0 ++ []) :=
    hrender.trans (by simp [spaces])
  have hentries :=
    isPart_entries hkeys hread hne 0 start 0 [] hrest (Text.stops_nil _) (Nat.le_refl 0)
      (Int.le_of_lt hdeep) rfl rfl
  rw [View.opened_of_lt hdeep] at hentries
  obtain ⟨n, last, hlast, hlength, hrun⟩ := hentries first hfirst
  obtain ⟨after, hafter, hall⟩ := hlast.exists_run?_end ((render (.record es)).length - n)
  -- there is fuel for every character and for the end, and every step has taken a character at
  -- least
  have hfuel : (render (.record es)).length + 1 = n + ((render (.record es)).length - n + 1) := by
    have hlength' : n + 0 ≤ (render (.record es)).length := hlength
    omega
  have hall' : after.tokens = .blockEnd ::
      ((Node.entryTokens (Node.ofEntries (es.map namedEntry))).reverse ++
        [Token.blockMappingStart]) := hall
  rw [Token.ofText?, hallowed, hfuel, hrun, hafter, tokens_record hne]
  simp [hall']

end Turnstile.Yaml
