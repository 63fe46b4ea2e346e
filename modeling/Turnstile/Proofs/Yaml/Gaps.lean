import Turnstile.Proofs.Text.Runs
import Turnstile.Yaml.Printer

/-!
# Gaps and lines

What stands between two words of a scalar, and between two things of a text: spaces, or line breaks
and then the indentation of a line. The breaks that are printed as they are count as themselves when
they are read.

## Main definitions

- `Yaml.separates`, `Yaml.isPassed`, `Yaml.interrupts` — the characters that words end before, those
  that are passed on the way to a token, and those that no token begins with

## Main statements

- `Yaml.Cursor.takeBreak_cons` — reading a printed break
- `Yaml.Gap.take?_spaces`, `Yaml.Gap.exists_take?_breaks` — reading a gap
-/

namespace Turnstile.Yaml

/-! ### Cursors -/

namespace Cursor

@[simp] theorem skip_zero (c : Cursor) : c.skip 0 = c := rfl

@[simp] theorem skip_skip (c : Cursor) (m n : Nat) : (c.skip m).skip n = c.skip (m + n) := by
  simp [skip, List.drop_drop, Nat.add_assoc]

@[simp] theorem column_skip (c : Cursor) (n : Nat) : (c.skip n).column = c.column + n := rfl

theorem rest_skip {c : Cursor} {cs rest : List Char} (h : c.rest = cs ++ rest) :
    (c.skip cs.length).rest = rest := by
  simp [skip, h]

theorem rest_skip_one {c : Cursor} {x : Char} {rest : List Char} (h : c.rest = x :: rest) :
    (c.skip 1).rest = rest := by
  simp [skip, h]

/-- A break that can be printed counts as itself. -/
theorem takeBreak_cons {c : Cursor} {x : Char} {rest : List Char} (h : c.rest = x :: rest)
    (hprintable : isPrintable x = true) (hbreak : isBreakChar x = true) :
    c.takeBreak = ([x], ⟨rest, c.index + 1, c.line + 1, 0⟩) := by
  simp only [isBreakChar, Bool.or_eq_true, decide_eq_true_eq] at hbreak
  rcases hbreak with (((rfl | rfl) | rfl) | rfl) | rfl
  · simp [takeBreak, h, isBreakChar]
  · exact absurd hprintable (by decide)
  · exact absurd hprintable (by decide)
  · simp [takeBreak, h]
  · simp [takeBreak, h]

end Cursor

/-! ### Indentation -/

theorem spaces_succ (n : Nat) : spaces (n + 1) = ' ' :: spaces n := rfl

@[simp] theorem length_spaces (n : Nat) : (spaces n).length = n := List.length_replicate

theorem eq_space_of_mem_spaces {n : Nat} {c : Char} (h : c ∈ spaces n) : c = ' ' :=
  List.eq_of_mem_replicate h

/-- A run of spaces is some number of them. -/
theorem exists_eq_spaces {cs : List Char} (h : ∀ c ∈ cs, c = ' ') : ∃ n, cs = spaces n :=
  ⟨cs.length, List.eq_replicate_of_mem h⟩

theorem Cursor.rest_skip_spaces {c : Cursor} {n : Nat} {rest : List Char}
    (h : c.rest = spaces n ++ rest) :
    (c.skip n).rest = rest := by
  have hskip := Cursor.rest_skip h
  rwa [length_spaces] at hskip

theorem isBlankChar_of_isBreakChar {x : Char} (h : isBreakChar x = true) :
    isBlankChar x = false := by
  simp only [isBreakChar, Bool.or_eq_true, decide_eq_true_eq] at h
  rcases h with (((rfl | rfl) | rfl) | rfl) | rfl <;> rfl

/-- Whether a character separates words. -/
def separates (c : Char) : Bool := isBlankChar c || isBreakChar c

/-- Whether a character on a line is taken away before a token: a blank, or the first of a comment
or a text. -/
def isPassed (c : Char) : Bool := isBlankChar c || c = '#' || c = byteOrderMark

/-- Whether a character cannot begin a token. -/
def interrupts (c : Char) : Bool := isPassed c || isBreakChar c

theorem stops_isPassed {cs : List Char} (h : Text.Stops interrupts cs) : Text.Stops isPassed cs :=
  fun c hc => (Bool.or_eq_false_iff.1 (h c hc)).1

theorem stops_separates {cs : List Char} (h : Text.Stops interrupts cs) :
    Text.Stops separates cs := by
  intro c hc
  obtain ⟨hpassed, hbreak⟩ := Bool.or_eq_false_iff.1 (h c hc)
  simp only [isPassed, Bool.or_eq_false_iff] at hpassed
  rw [separates, hpassed.1.1, hbreak]
  rfl

theorem stops_isBreakChar {cs : List Char} (h : Text.Stops separates cs) :
    Text.Stops isBreakChar cs :=
  fun c hc => (Bool.or_eq_false_iff.1 (h c hc)).2

theorem stops_space {cs : List Char} (h : Text.Stops separates cs) : Text.Stops (· = ' ') cs := by
  intro c hc
  have hblank : isBlankChar c = false := (Bool.or_eq_false_iff.1 (h c hc)).1
  exact (Bool.or_eq_false_iff.1 hblank).1

/-! ### Gaps -/

namespace Gap

variable {floor : Int} {g : Gap} {c : Cursor} {rest : List Char} {fuel : Nat}

theorem take?_of_stops (h : Text.Stops separates c.rest) : g.take? floor fuel c = some (g, c) := by
  cases fuel with
  | zero => rfl
  | succ fuel =>
    unfold take?
    split
    · rfl
    · next x hx =>
      have hx' : separates x = false := h x (Option.mem_def.2 hx)
      simp only [separates, Bool.or_eq_false_iff] at hx'
      simp [hx'.1, hx'.2]

/-- Spaces on a line are kept. -/
theorem take?_spaces {n : Nat} (hbroken : g.broken = false) (h : c.rest = spaces n ++ rest)
    (hrest : Text.Stops separates rest) (hfuel : n ≤ fuel) :
    g.take? floor fuel c = some ({ g with blanks := g.blanks ++ spaces n }, c.skip n) := by
  induction n generalizing g c fuel with
  | zero =>
    rw [take?_of_stops (h ▸ hrest)]
    simp [spaces]
  | succ n ih =>
    obtain ⟨fuel, rfl⟩ : ∃ k, fuel = k + 1 := ⟨fuel - 1, by omega⟩
    have hcons : c.rest = ' ' :: (spaces n ++ rest) := h
    have hstep : g.take? floor (fuel + 1) c = (g.addBlank ' ').take? floor fuel (c.skip 1) := by
      simp [take?, Cursor.head?, hcons, isBlankChar, hbroken]
    have hadd : g.addBlank ' ' = { g with blanks := g.blanks ++ [' '] } := by
      simp [addBlank, hbroken]
    have hskip : (c.skip 1).rest = spaces n ++ rest := Cursor.rest_skip_one hcons
    have hrun :=
      ih (g := { g with blanks := g.blanks ++ [' '] }) hbroken hskip (Nat.le_of_succ_le_succ hfuel)
    rw [hstep, hadd, hrun, Cursor.skip_skip, Nat.add_comm 1 n, spaces_succ, List.append_assoc]
    rfl

/-- Spaces at the start of a line do not count. -/
theorem take?_indentation {n : Nat} (hbroken : g.broken = true) (h : c.rest = spaces n ++ rest)
    (hrest : Text.Stops separates rest) (hfuel : n ≤ fuel) :
    g.take? floor fuel c = some (g, c.skip n) := by
  induction n generalizing c fuel with
  | zero => exact take?_of_stops (h ▸ hrest)
  | succ n ih =>
    obtain ⟨fuel, rfl⟩ : ∃ k, fuel = k + 1 := ⟨fuel - 1, by omega⟩
    have hcons : c.rest = ' ' :: (spaces n ++ rest) := h
    have hstep : g.take? floor (fuel + 1) c = g.take? floor fuel (c.skip 1) := by
      simp [take?, Cursor.head?, hcons, isBlankChar, addBlank, hbroken]
    have hskip : (c.skip 1).rest = spaces n ++ rest := Cursor.rest_skip_one hcons
    rw [hstep, ih hskip (Nat.le_of_succ_le_succ hfuel), Cursor.skip_skip, Nat.add_comm 1 n]

/-- More breaks are added to those of a line that has been broken. -/
theorem exists_take?_more (floor : Int) (fuel : Nat) {n : Nat} {bs : List Char}
    (hbroken : g.broken = true) (hcolumn : c.column = 0)
    (h : c.rest = bs ++ (spaces n ++ rest))
    (hbs : ∀ x ∈ bs, isPrintable x = true ∧ isBreakChar x = true)
    (hrest : Text.Stops separates rest) (hfuel : bs.length + n ≤ fuel) :
    ∃ after, g.take? floor fuel c = some ({ g with more := g.more ++ bs }, after) ∧
      after.rest = rest ∧
      after.column = n ∧ c.line ≤ after.line := by
  induction bs generalizing g c fuel with
  | nil =>
    refine ⟨c.skip n, ?_, ?_, ?_, Nat.le_refl _⟩
    · rw [take?_indentation hbroken h hrest (by simpa using hfuel), List.append_nil]
    · exact Cursor.rest_skip_spaces h
    · rw [Cursor.column_skip, hcolumn, Nat.zero_add]
  | cons x bs ih =>
    obtain ⟨⟨hprintable, hbreak⟩, hbs⟩ := List.forall_mem_cons.1 hbs
    obtain ⟨fuel, rfl⟩ : ∃ k, fuel = k + 1 := ⟨fuel - 1, by rw [List.length_cons] at hfuel; omega⟩
    have htake := Cursor.takeBreak_cons h hprintable hbreak
    have hblank : isBlankChar x = false := isBlankChar_of_isBreakChar hbreak
    have hstep : g.take? floor (fuel + 1) c =
        (g.addBreak [x]).take? floor fuel
          ⟨bs ++ (spaces n ++ rest), c.index + 1, c.line + 1, 0⟩ := by
      simp [take?, Cursor.head?, h, hblank, hbreak, htake]
    have hadd : g.addBreak [x] = { g with more := g.more ++ [x] } := by simp [addBreak, hbroken]
    rw [List.length_cons] at hfuel
    obtain ⟨after, hafter, hrest, hcolumn, hline⟩ :=
      ih (g := { g with more := g.more ++ [x] })
        (c := ⟨bs ++ (spaces n ++ rest), c.index + 1, c.line + 1, 0⟩)
        fuel hbroken rfl rfl hbs (by omega)
    refine ⟨after, ?_, hrest, hcolumn, Nat.le_of_succ_le hline⟩
    rw [hstep, hadd, hafter, List.append_assoc]
    rfl

/-- A gap of breaks means them. -/
theorem exists_take?_breaks (floor : Int) (fuel : Nat) {n : Nat} {x : Char} {bs : List Char}
    (h : c.rest = x :: bs ++ (spaces n ++ rest))
    (hbs : ∀ y ∈ x :: bs, isPrintable y = true ∧ isBreakChar y = true)
    (hrest : Text.Stops separates rest) (hfuel : bs.length + n < fuel) :
    ∃ after, Gap.take? floor fuel {} c = some (⟨[], true, [x], bs⟩, after) ∧ after.rest = rest ∧
      after.column = n ∧ c.line < after.line := by
  obtain ⟨⟨hprintable, hbreak⟩, hbs⟩ := List.forall_mem_cons.1 hbs
  obtain ⟨fuel, rfl⟩ : ∃ k, fuel = k + 1 := ⟨fuel - 1, by omega⟩
  have htake := Cursor.takeBreak_cons h hprintable hbreak
  have hblank : isBlankChar x = false := isBlankChar_of_isBreakChar hbreak
  have hstep : Gap.take? floor (fuel + 1) {} c =
      Gap.take? floor fuel ⟨[], true, [x], []⟩
        ⟨bs ++ (spaces n ++ rest), c.index + 1, c.line + 1, 0⟩ := by
    simp [take?, Cursor.head?, h, hblank, hbreak, htake, addBreak]
  obtain ⟨after, hafter, hrest, hcolumn, hline⟩ :=
    exists_take?_more floor fuel (g := ⟨[], true, [x], []⟩)
      (c := ⟨bs ++ (spaces n ++ rest), c.index + 1, c.line + 1, 0⟩) rfl rfl rfl hbs hrest (by omega)
  exact ⟨after, hstep.trans hafter, hrest, hcolumn, hline⟩

end Gap

end Turnstile.Yaml
