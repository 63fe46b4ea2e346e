import Mathlib.Data.List.Forall2
import Turnstile.Data.Record

/-!
# Values that show a tree

Every format reads truth values, numbers, texts and records in its own way. A value of a format
shows a tree if, wherever the tree has a thing of some type, the format reads that thing there.
Whoever reads by type then cannot tell the value from the tree itself.

## Main definitions

- `Data.Simple` — trees of the things that records are made of
- `Shows` — a value of a format and the tree that it shows
- `Record.Lists`, `Record.Holds` — fields of a record and what they show

## Main statements

- `Data.Simple.shows` — a simple tree shows itself
- `Record.exists_lists_of_shows`, `Record.exists_open?_of_shows` — the fields of a record that is
  shown
- `Record.Holds.field?_eq`, `Shows.list?_eq`, `Shows.optional?_eq` — reading what is shown
-/

namespace Turnstile

/-- A tree of truth values, natural numbers of 64 bits, texts, lists and records, of which all keys
satisfy a condition, at most so deep. -/
inductive Data.Simple (isKey : String → Prop) : Nat → Data → Prop
  | null {depth : Nat} : Simple isKey depth .null
  | bool {depth : Nat} (b : Bool) : Simple isKey depth (.bool b)
  | nat {depth n : Nat} (small : n < 18446744073709551616) : Simple isKey depth (.nat n)
  | text {depth : Nat} (s : String) : Simple isKey depth (.text s)
  | list {depth : Nat} {items : List Data} (parts : ∀ d ∈ items, Simple isKey depth d) :
    Simple isKey (depth + 1) (.list items)
  | record {depth : Nat} {entries : List (String × Data)} (keys : ∀ e ∈ entries, isKey e.1)
    (parts : ∀ e ∈ entries, Simple isKey depth e.2) : Simple isKey (depth + 1) (.record entries)

theorem Data.record_injective : Function.Injective Data.record := by
  intro es fs h
  refine List.map_injective_iff.2 ?_ (Data.map.inj h)
  rintro ⟨name, x⟩ ⟨name', x'⟩ heq
  obtain ⟨hname, rfl⟩ := Prod.mk.inj heq
  rw [Data.text.inj hname]

/-- The keys and parts of a simple record. -/
theorem Data.Simple.of_record {isKey : String → Prop} {depth : Nat} {es : List (String × Data)}
    (h : (Data.record es).Simple isKey (depth + 1)) :
    (∀ e ∈ es, isKey e.1) ∧ ∀ e ∈ es, e.2.Simple isKey depth := by
  generalize hx : Data.record es = x at h
  cases h with
  | record keys parts =>
    obtain rfl := Data.record_injective hx
    exact ⟨keys, parts⟩
  | _ => cases hx

/-- A value of a format shows a tree: whatever the tree has somewhere is read there, and only `null`
is absent. -/
inductive Shows {σ : Type} [Source σ] : σ → Data → Prop
  | null {v : σ} (absent : Source.optional? v = some none)
      (content : Source.content? v = some .null) :
    Shows v .null
  | bool {v : σ} {b : Bool} (reads : Source.bool? v = some b)
      (present : Source.optional? v = some (some v))
    (content : Source.content? v = some (.bool b)) : Shows v (.bool b)
  | nat {v : σ} {n : Nat} (reads : ∀ limit, n ≤ limit → Source.nat? limit v = some n)
    (present : Source.optional? v = some (some v)) (content : Source.content? v = some (.nat n)) :
    Shows v (.nat n)
  | text {v : σ} {s : String} (reads : Source.text? v = some s)
      (names : ∀ known, Source.variant? known v = some s)
    (present : Source.optional? v = some (some v)) (content : Source.content? v = some (.text s)) :
    Shows v (.text s)
  | list {v : σ} {parts : List σ} {items : List Data} (reads : Source.items? v = some parts)
    (shown : List.Forall₂ Shows parts items) (present : Source.optional? v = some (some v))
    (content : Source.content? v = some (.list items)) : Shows v (.list items)
  | map {v : σ} {fields : List (String × σ)} {entries : List (Data × Data)}
      (reads : Source.entries? v = some fields)
    (opens : Source.fields? v = some (.named fields))
    (keys : entries.map (·.1) = fields.map fun field => .text field.1)
    (shown : List.Forall₂ Shows (fields.map (·.2)) (entries.map (·.2)))
    (present : Source.optional? v = some (some v))
    (content : Source.content? v = some (.map entries)) :
    Shows v (.map entries)

variable {σ α : Type}

/-- Reading items that are related to things, each of which is read from what is related to it. -/
theorem mapM_eq_of_forall₂ {β : Type} {related : α → β → Prop} {read : α → Option β}
    {as : List α} {bs : List β} (h : List.Forall₂ related as bs)
    (hread : ∀ a, ∀ b ∈ bs, related a b → read a = some b) :
    as.mapM read = some bs := by
  induction h with
  | nil => rfl
  | @cons a b as bs hhead _ ih =>
    have hfirst : read a = some b := hread a b List.mem_cons_self hhead
    have hrest : as.mapM read = some bs := ih fun a b hb => hread a b (List.mem_cons_of_mem _ hb)
    rw [List.mapM_cons, hfirst, hrest]
    rfl

/-! ### Records -/

namespace Record

theorem distinct_of_nodup {names : List String} (h : names.Nodup) : distinct names = true := by
  induction names with
  | nil => rfl
  | cons name rest ih =>
    rw [List.nodup_cons] at h
    simp [distinct, h.1, ih h.2]

/-- Entries of which all names are known and different are all taken. -/
theorem select?_of_nodup {names : List String} {entries : List (String × σ)}
    (hknown : ∀ e ∈ entries, e.1 ∈ names) (hnodup : (entries.map (·.1)).Nodup) :
    select? names entries = some entries := by
  have hall : (entries.filter fun e => names.contains e.1) = entries := by
    rw [List.filter_eq_self]
    intro e he
    simpa using hknown e he
  rw [select?, hall, distinct_of_nodup hnodup]
  rfl

variable [Source σ]

/-- Fields are named like entries, one by one, and show what is written there. -/
def Lists (fields : List (String × σ)) (entries : List (String × Data)) : Prop :=
  List.Forall₂ (fun field entry => field.1 = entry.1 ∧ Shows field.2 entry.2) fields entries

/-- A field is there and shows a tree. -/
def Holds (fields : List (String × σ)) (name : String) (d : Data) : Prop :=
  ∃ v, fields.lookup name = some v ∧ Shows v d

variable {fields : List (String × σ)} {entries : List (String × Data)} {v : σ}

theorem Lists.names_eq (h : Lists fields entries) : fields.map (·.1) = entries.map (·.1) := by
  induction h with
  | nil => rfl
  | cons hhead _ ih => rw [List.map_cons, List.map_cons, hhead.1, ih]

/-- In a record that is shown every field holds what is written there. -/
theorem Lists.holds (h : Lists fields entries) (hnodup : (entries.map (·.1)).Nodup) :
    ∀ e ∈ entries, Holds fields e.1 e.2 := by
  induction h with
  | nil => nofun
  | @cons field entry fields entries hhead _ ih =>
    obtain ⟨hname, hshows⟩ := hhead
    rw [List.map_cons, List.nodup_cons] at hnodup
    intro e he
    rcases List.mem_cons.1 he with rfl | he
    · refine ⟨field.2, ?_, hshows⟩
      rw [List.lookup_cons, hname, beq_self_eq_true]
    · have hne : e.1 ≠ field.1 := by
        rw [hname]
        intro heq
        exact hnodup.1 (heq ▸ List.mem_map.2 ⟨e, he, rfl⟩)
      obtain ⟨w, hlookup, hw⟩ := ih hnodup.2 e he
      refine ⟨w, ?_, hw⟩
      rw [List.lookup_cons, beq_eq_false_iff_ne.2 hne]
      exact hlookup

/-- A record that is shown has fields that list its entries. -/
theorem exists_lists_of_shows (h : Shows v (.record entries)) :
    ∃ fields, Source.entries? v = some fields ∧ Source.fields? v = some (.named fields) ∧
      Lists fields entries := by
  rw [Data.record] at h
  cases h with
  | @map _ fields _ reads opens keys shown _ _ =>
    have htexts : (entries.map (·.1)).map Data.text = (fields.map (·.1)).map Data.text := by
      simpa [List.map_map, Function.comp_def] using keys
    have hnames : fields.map (·.1) = entries.map (·.1) :=
      (List.map_injective_iff.2 (fun a b hab => Data.text.inj hab) htexts).symm
    rw [← List.forall₂_eq_eq_eq, List.forall₂_map_left_iff, List.forall₂_map_right_iff] at hnames
    rw [List.map_map, List.forall₂_map_left_iff, List.forall₂_map_right_iff] at shown
    rw [List.forall₂_iff_zip] at hnames shown
    exact ⟨fields, reads, opens,
      List.forall₂_iff_zip.2 ⟨hnames.1, fun he => ⟨hnames.2 he, shown.2 he⟩⟩⟩

/-- Opening a record that is shown gives fields that hold what is written there. -/
theorem exists_open?_of_shows (names : List String) (h : Shows v (.record entries))
    (hnames : entries.map (·.1) = names) (hnodup : names.Nodup) :
    ∃ fields, open? names v = some fields ∧ ∀ e ∈ entries, Holds fields e.1 e.2 := by
  obtain ⟨fields, -, hopens, hlists⟩ := exists_lists_of_shows h
  subst hnames
  refine ⟨fields, ?_, hlists.holds hnodup⟩
  have hknown : ∀ e ∈ fields, e.1 ∈ entries.map (·.1) := by
    intro e he
    rw [← hlists.names_eq]
    exact List.mem_map.2 ⟨e, he, rfl⟩
  rw [open?, hopens]
  exact select?_of_nodup hknown (hlists.names_eq ▸ hnodup)

namespace Holds

variable {name : String} {d : Data} {read : σ → Option α} {a : α}

theorem field?_eq (h : Holds fields name d) (hread : ∀ v, Shows v d → read v = some a)
    (default : α) :
    field? fields name read default = some a := by
  obtain ⟨v, hlookup, hshows⟩ := h
  rw [field?, hlookup]
  exact hread v hshows

end Holds

end Record

/-! ### Single values -/

namespace Shows

variable [Source σ] {v : σ} {d : Data}

theorem content?_eq (h : Shows v d) : Source.content? v = some d := by
  cases h with
  | null _ content => exact content
  | bool _ _ content => exact content
  | nat _ _ content => exact content
  | text _ _ _ content => exact content
  | list _ _ _ content => exact content
  | map _ _ _ _ _ content => exact content

theorem bool?_eq {b : Bool} (h : Shows v (.bool b)) : Source.bool? v = some b := by
  cases h with
  | bool reads _ _ => exact reads

theorem nat?_eq {n limit : Nat} (h : Shows v (.nat n)) (hn : n ≤ limit) :
    Source.nat? limit v = some n := by
  generalize hd : Data.nat n = d at h
  cases h with
  | nat reads _ _ =>
    obtain rfl := Int.ofNat.inj (Data.int.inj hd)
    exact reads limit hn
  | _ => cases hd

theorem text?_eq {s : String} (h : Shows v (.text s)) : Source.text? v = some s := by
  cases h with
  | text reads _ _ _ => exact reads

theorem variant?_eq {s : String} (h : Shows v (.text s)) (known : List String) :
    Source.variant? known v = some s := by
  cases h with
  | text _ names _ _ => exact names known

theorem present_of_ne_null (h : Shows v d) (hd : d ≠ .null) :
    Source.optional? v = some (some v) := by
  cases h with
  | null _ _ => exact absurd rfl hd
  | bool _ present _ => exact present
  | nat _ present _ => exact present
  | text _ _ present _ => exact present
  | list _ _ present _ => exact present
  | map _ _ _ _ present _ => exact present

/-- An optional thing that is shown is read, if what is written for a thing shows that there is
one. -/
theorem optional?_eq {write : α → Data} {read : σ → Option α} {a : Option α}
    (h : Shows v (Data.option write a)) (hwrite : ∀ b, write b ≠ .null)
    (hread : ∀ b, Shows v (write b) → read v = some b) :
    Record.optional? read v = some a := by
  cases a with
  | none =>
    cases h with
    | null absent _ => rw [Record.optional?, absent]; rfl
  | some b =>
    rw [Record.optional?, h.present_of_ne_null (hwrite b)]
    simp [hread b h]

/-- A list that is shown is read item by item. -/
theorem list?_eq {write : α → Data} {read : σ → Option α} {as : List α}
    (h : Shows v (.list (as.map write)))
    (hread : ∀ w, ∀ a ∈ as, Shows w (write a) → read w = some a) :
    Record.list? read v = some as := by
  cases h with
  | list reads shown _ _ =>
    rw [List.forall₂_map_right_iff] at shown
    rw [Record.list?, reads]
    exact mapM_eq_of_forall₂ shown hread

end Shows

/-- The contents of fields that list entries are the entries. -/
theorem Record.Lists.contents_eq [Source σ] {fields : List (String × σ)}
    {entries : List (String × Data)} (h : Record.Lists fields entries) :
    (fields.mapM fun e => do return (e.1, ← Source.content? e.2)) = some entries :=
  mapM_eq_of_forall₂ h fun field entry _ hfield => by
    rw [hfield.2.content?_eq, hfield.1]
    rfl

/-! ### Trees as values -/

namespace Data

@[simp] theorem entries?_record (entries : List (String × Data)) :
    (record entries).entries? = some entries := by
  rw [record, entries?, List.filterMap_map]
  exact congrArg some (List.filterMap_some)

/-- A simple tree shows itself. -/
theorem Simple.shows {isKey : String → Prop} {depth : Nat} {d : Data} (h : Simple isKey depth d) :
    Shows d d := by
  induction h with
  | null => exact .null rfl rfl
  | bool b => exact .bool rfl rfl rfl
  | @nat _ n _ =>
    refine .nat (fun limit hn => ?_) rfl rfl
    change bounded? limit (.int n) = some n
    simp [bounded?, hn]
  | text s => exact .text rfl (fun _ => rfl) rfl rfl
  | list _ ih => exact .list rfl (List.forall₂_same.2 ih) rfl rfl
  | @record _ entries _ _ ih =>
    have hentries : Source.entries? (Data.record entries) = some entries := entries?_record entries
    refine .map hentries ?_ (by simp [Function.comp_def]) ?_ rfl rfl
    · change ((Data.record entries).entries?).map Fields.named = _
      rw [entries?_record]
      rfl
    · rw [List.map_map]
      refine List.forall₂_same.2 fun d hd => ?_
      obtain ⟨e, he, rfl⟩ := List.mem_map.1 hd
      exact ih e he

end Data

end Turnstile
