import Turnstile.Proofs.Yaml.Plain
import Turnstile.Proofs.Yaml.Spellings

/-!
# Quoted scalars

What stands between quotes is words and the gaps between them. Within single quotes a quote is
written twice, and a break is followed by the indentation of the next line. Within double quotes
everything but the spaces is written as itself or escaped, so the whole is one line.

## Main definitions

- `Yaml.Quoted` — what is written between quotes, and the text that it means
- `Yaml.SingleText` — what can be written within single quotes

## Main statements

- `Yaml.Quoted.exists_takeQuoted?` — what is written so is read as the text that it means
- `Yaml.quoted_double`, `Yaml.quoted_single` — texts are written so
-/

namespace Turnstile.Yaml

variable {single : Bool} {cs w written rest : List Char} {c : Cursor}

/-- The mark around a quoted scalar. -/
def quoteMark (single : Bool) : Char := if single then '\'' else '"'

/-- How a character of a word is written. -/
def spell (single : Bool) (x : Char) : List Char :=
  if single then (if x = '\'' then ['\'', '\''] else [x]) else escape x

/-- Whether a character belongs to a word. -/
def inWord (single : Bool) (x : Char) : Bool :=
  if single then !separates x else x ≠ ' '

/-- What is written between quotes, and the text that it means: a word, and perhaps a gap and more
of it. A gap is spaces, or breaks and then the indentation of a line. -/
inductive Quoted (single : Bool) : List Char → List Char → Prop
  | word {w : List Char} (hw : ∀ x ∈ w, inWord single x = true) :
      Quoted single (w.flatMap (spell single)) w
  | spaces {w written cs : List Char} {n : Nat} (hw : ∀ x ∈ w, inWord single x = true)
    (hstop : Text.Stops separates (written ++ [quoteMark single]))
    (later : Quoted single written cs) :
    Quoted single (w.flatMap (spell single) ++ (Yaml.spaces (n + 1) ++ written))
      (w ++ (Yaml.spaces (n + 1) ++ cs))
  | breaks {w bs written cs : List Char} {b : Char} {n : Nat} (hw : ∀ x ∈ w, inWord single x = true)
    (hbs : ∀ y ∈ b :: bs, isPrintable y = true ∧ isBreakChar y = true) (hfirst : b ≠ '\n')
    (hstop : Text.Stops separates (written ++ [quoteMark single]))
    (later : Quoted single written cs) :
    Quoted single (w.flatMap (spell single) ++ (b :: bs ++ (Yaml.spaces (n + 1) ++ written)))
      (w ++ (b :: bs ++ cs))

/-! ### Words -/

/-- A word ends before a gap. -/
theorem quotedWord?_separator {fuel : Nat} {text : List Char} {x : Char} (h : c.rest = x :: rest)
    (hx : separates x = true) : quotedWord? single (fuel + 1) text c = some (text, false, c) := by
  have hx' : (isBlankChar x || isBreakChar x) = true := hx
  unfold quotedWord?
  rw [h]
  simp only [hx', if_true]

/-- A word ends before the closing quote. -/
theorem quotedWord?_mark {fuel : Nat} {text : List Char} (h : c.rest = quoteMark single :: rest)
    (hrest : rest.head? ≠ some '\'') :
    quotedWord? single (fuel + 1) text c = some (text, false, c) := by
  unfold quotedWord?
  rw [h]
  cases single <;> simp [quoteMark, isBlankChar, isBreakChar, hrest]

/-! ### Characters within single quotes -/

theorem quotedWord?_spell_single {fuel : Nat} {text : List Char} {x : Char}
    (hx : inWord true x = true) (h : c.rest = spell true x ++ rest) :
    quotedWord? true (fuel + 1) text c = quotedWord? true fuel (text ++ [x])
      (c.skip (spell true x).length) := by
  have hsep : (isBlankChar x || isBreakChar x) = false := by simpa [inWord, separates] using hx
  by_cases hquote : x = '\''
  · subst hquote
    have hrest : c.rest = '\'' :: '\'' :: rest := h
    rw [quotedWord?, hrest]
    rfl
  · have hspell : spell true x = [x] := by simp [spell, hquote]
    rw [hspell] at h ⊢
    have hrest : c.rest = x :: rest := h
    rw [quotedWord?, hrest]
    simp only [hsep]
    simp [hquote]

/-! ### Characters within double quotes -/

theorem hexDigits_succ (width n : Nat) :
    hexDigits (width + 1) n = hexDigits width (n / 16) ++ [(Nat.digitChar (n % 16)).toUpper] := by
  have hdigit : ∀ k, n / 16 ^ (k + 1) = n / 16 / 16 ^ k := by
    intro k
    rw [Nat.div_div_eq_div_mul, Nat.pow_succ, Nat.mul_comm]
  rw [hexDigits, List.range_succ_eq_map, List.reverse_cons,
    List.map_append, ← List.map_reverse, List.map_map]
  simp [hexDigits, Function.comp_def, hdigit]

theorem hexValue?_toUpper {d : Nat} (h : d < 16) :
    Bytes.hexValue? (Nat.digitChar d).toUpper = some d := by
  have table : ∀ d < 16, Bytes.hexValue? (Nat.digitChar d).toUpper = some d := by decide
  exact table d h

/-- The values of the digits of a number that fits give it back. -/
theorem exists_hexValues (width : Nat) {n : Nat} (h : n < Nat.pow 16 width) :
    ∃ values, (hexDigits width n).mapM Bytes.hexValue? = some values ∧
      values.foldl (fun n d => n * 16 + d) 0 = n := by
  induction width generalizing n with
  | zero =>
    obtain rfl : n = 0 := Nat.lt_one_iff.1 h
    exact ⟨[], rfl, rfl⟩
  | succ width ih =>
    have hfront : n / 16 < Nat.pow 16 width := by
      refine Nat.div_lt_of_lt_mul ?_
      rw [Nat.mul_comm]
      exact h
    obtain ⟨values, hvalues, hfold⟩ := ih hfront
    refine ⟨values ++ [n % 16], ?_, ?_⟩
    · rw [hexDigits_succ, List.mapM_append, hvalues]
      simp [hexValue?_toUpper (Nat.mod_lt n (by decide))]
    · rw [List.foldl_append, hfold]
      exact Nat.div_add_mod' n 16

theorem charOfHex?_hexDigits {width : Nat} {x : Char} (h : x.toNat < Nat.pow 16 width) :
    charOfHex? (hexDigits width x.toNat) = some x := by
  obtain ⟨values, hvalues, hfold⟩ := exists_hexValues width h
  have hvalid : ¬ ((0xD800 ≤ x.toNat ∧ x.toNat ≤ 0xDFFF) ∨ x.toNat > 0x10FFFF) := by
    have hchar : x.toNat < 0xD800 ∨ (0xDFFF < x.toNat ∧ x.toNat < 0x110000) := x.valid
    omega
  rw [charOfHex?, hvalues]
  simp [hfold, hvalid]

theorem length_hexDigits (width n : Nat) : (hexDigits width n).length = width := by simp [hexDigits]

/-- An escape by number stands for the character with it. -/
theorem takeEscape?_hexDigits {width : Nat} {x letter : Char}
    (hletter : escapeDigits? letter = some width) (h : x.toNat < Nat.pow 16 width)
    (rest : List Char) :
    takeEscape? (letter :: hexDigits width x.toNat ++ rest) = some (x, 2 + width) := by
  have htake : (hexDigits width x.toNat ++ rest).take width = hexDigits width x.toNat :=
    List.take_left' (length_hexDigits width x.toNat)
  rw [List.cons_append, takeEscape?, hletter]
  simp [htake, length_hexDigits, charOfHex?_hexDigits h]

/-- An escape by letter stands for its character. -/
theorem takeEscape?_escapeLetter {x letter : Char} (h : escapeLetter? x = some letter)
    (rest : List Char) :
    takeEscape? (letter :: rest) = some (x, 2) ∧ isBreakChar letter = false := by
  unfold escapeLetter? at h
  split at h <;> cases h <;> exact ⟨rfl, rfl⟩

/-- A character that can stand for itself is no mark and no gap but a space. -/
theorem of_escapeLetter?_eq_none {x : Char} (h : escapeLetter? x = none) :
    x ≠ '"' ∧ x ≠ '\\' ∧ isBreakChar x = false ∧ x ≠ '\t' := by
  refine ⟨?_, ?_, ?_, ?_⟩
  · rintro rfl
    cases h
  · rintro rfl
    cases h
  · rw [Bool.eq_false_iff]
    intro hbreak
    simp only [isBreakChar, Bool.or_eq_true, decide_eq_true_eq] at hbreak
    rcases hbreak with (((rfl | rfl) | rfl) | rfl) | rfl <;> cases h
  · rintro rfl
    cases h

theorem quotedWord?_escape {fuel : Nat} {text cs : List Char} {x y : Char} {n : Nat}
    (h : c.rest = '\\' :: y :: cs) (hy : isBreakChar y = false)
    (hescape : takeEscape? (y :: cs) = some (x, n)) :
    quotedWord? false (fuel + 1) text c = quotedWord? false fuel (text ++ [x]) (c.skip n) := by
  have hseparates : (isBlankChar '\\' || isBreakChar '\\') = false := rfl
  rw [quotedWord?, h]
  simp only [hseparates]
  simp [hy, hescape]

theorem quotedWord?_itself {fuel : Nat} {text cs : List Char} {x : Char} (h : c.rest = x :: cs)
    (hspace : x ≠ ' ') (hletter : escapeLetter? x = none) :
    quotedWord? false (fuel + 1) text c = quotedWord? false fuel (text ++ [x]) (c.skip 1) := by
  obtain ⟨hquote, hslash, hbreak, htab⟩ := of_escapeLetter?_eq_none hletter
  have hseparates : (isBlankChar x || isBreakChar x) = false := by
    simp [isBlankChar, hspace, htab, hbreak]
  rw [quotedWord?, h]
  simp only [hseparates]
  simp [hquote, hslash]

/-- A character is escaped by a letter, stands for itself, or is escaped by its number. -/
theorem escape_cases (x : Char) :
    (∃ letter, escapeLetter? x = some letter ∧ escape x = ['\\', letter]) ∨
      (escapeLetter? x = none ∧ isPrintable x = true ∧ escape x = [x]) ∨
      ∃ letter width, escapeDigits? letter = some width ∧ x.toNat < Nat.pow 16 width ∧
        escape x = '\\' :: letter :: hexDigits width x.toNat := by
  have hnumber : x.toNat < 0x110000 := by
    have hchar : x.toNat < 0xD800 ∨ (0xDFFF < x.toNat ∧ x.toNat < 0x110000) := x.valid
    omega
  unfold escape
  split
  · next letter hletter => exact Or.inl ⟨letter, hletter, rfl⟩
  · next hletter =>
    dsimp only
    split
    · next hprintable => exact Or.inr (Or.inl ⟨hletter, hprintable, rfl⟩)
    · split
      · next hnear => exact Or.inr (Or.inr ⟨'x', 2, rfl, Nat.lt_succ_of_le hnear, rfl⟩)
      · split
        · next hnear => exact Or.inr (Or.inr ⟨'u', 4, rfl, Nat.lt_succ_of_le hnear, rfl⟩)
        · exact Or.inr (Or.inr ⟨'U', 8, rfl, Nat.lt_of_lt_of_le hnumber (by decide), rfl⟩)

theorem isBreakChar_of_escapeDigits? {letter : Char} {width : Nat}
    (h : escapeDigits? letter = some width) :
    isBreakChar letter = false := by
  unfold escapeDigits? at h
  split at h <;> first | rfl | cases h

theorem quotedWord?_spell_double {fuel : Nat} {text : List Char} {x : Char}
    (hx : inWord false x = true) (h : c.rest = spell false x ++ rest) :
    quotedWord? false (fuel + 1) text c = quotedWord? false fuel (text ++ [x])
      (c.skip (spell false x).length) := by
  have hspace : x ≠ ' ' := by simpa [inWord] using hx
  have hspell : spell false x = escape x := rfl
  rw [hspell] at h ⊢
  rcases escape_cases x with ⟨letter, hletter, heq⟩ | ⟨hletter, -, heq⟩ |
    ⟨letter, width, hwidth, hnumber, heq⟩
  · rw [heq] at h ⊢
    obtain ⟨hescape, hbreak⟩ := takeEscape?_escapeLetter hletter rest
    exact quotedWord?_escape h hbreak hescape
  · rw [heq] at h ⊢
    exact quotedWord?_itself h hspace hletter
  · rw [heq] at h ⊢
    have hescape := takeEscape?_hexDigits hwidth hnumber rest
    have hlength : ('\\' :: letter :: hexDigits width x.toNat).length = 2 + width := by
      rw [List.length_cons, List.length_cons, length_hexDigits]
      omega
    rw [quotedWord?_escape h (isBreakChar_of_escapeDigits? hwidth) hescape, hlength]

/-! ### Reading -/

theorem quotedWord?_spell {fuel : Nat} {text : List Char} {x : Char} (hx : inWord single x = true)
    (h : c.rest = spell single x ++ rest) :
    quotedWord? single (fuel + 1) text c = quotedWord? single fuel (text ++ [x])
      (c.skip (spell single x).length) := by
  cases single with
  | false => exact quotedWord?_spell_double hx h
  | true => exact quotedWord?_spell_single hx h

/-- A word is read up to where one ends. -/
theorem quotedWord?_run (hw : ∀ x ∈ w, inWord single x = true)
    (hstop : ∀ fuel text c, c.rest = rest →
      quotedWord? single (fuel + 1) text c = some (text, false, c))
    {fuel : Nat} {text : List Char} {c : Cursor} (h : c.rest = w.flatMap (spell single) ++ rest)
    (hfuel : w.length < fuel) :
    quotedWord? single fuel text c =
      some (text ++ w, false, c.skip (w.flatMap (spell single)).length) := by
  induction w generalizing fuel text c with
  | nil =>
    obtain ⟨fuel, rfl⟩ : ∃ k, fuel = k + 1 := ⟨fuel - 1, by omega⟩
    simpa using hstop fuel text c h
  | cons x w ih =>
    obtain ⟨hx, hw⟩ := List.forall_mem_cons.1 hw
    obtain ⟨fuel, rfl⟩ : ∃ k, fuel = k + 1 := ⟨fuel - 1, by omega⟩
    rw [List.flatMap_cons, List.append_assoc] at h
    rw [List.length_cons] at hfuel
    have hrest := Cursor.rest_skip h
    rw [quotedWord?_spell hx h, ih hw hrest (by omega)]
    simp

theorem spell_ne_nil (single : Bool) (x : Char) : spell single x ≠ [] := by
  cases single with
  | true =>
    change (if x = '\'' then ['\'', '\''] else [x]) ≠ []
    split <;> nofun
  | false =>
    have hspell : spell false x = escape x := rfl
    rw [hspell]
    rcases escape_cases x with ⟨_, _, heq⟩ | ⟨_, _, heq⟩ | ⟨_, _, _, _, heq⟩ <;> rw [heq] <;> nofun

theorem length_le_length_flatMap_spell (single : Bool) (w : List Char) :
    w.length ≤ (w.flatMap (spell single)).length := by
  induction w with
  | nil => exact Nat.le_refl 0
  | cons x w ih =>
    have hpos : 0 < (spell single x).length := List.length_pos_iff.2 (spell_ne_nil single x)
    rw [List.flatMap_cons, List.length_append, List.length_cons]
    omega

/-- A word at the cursor is read with the fuel that there is. -/
theorem quotedWord?_front (text : List Char) (hw : ∀ x ∈ w, inWord single x = true)
    (hstop : ∀ fuel text c, c.rest = rest →
      quotedWord? single (fuel + 1) text c = some (text, false, c))
    (h : c.rest = w.flatMap (spell single) ++ rest) :
    quotedWord? single (c.rest.length + 1) text c =
      some (text ++ w, false, c.skip (w.flatMap (spell single)).length) := by
  have hlength := length_le_length_flatMap_spell single w
  refine quotedWord?_run hw hstop h ?_
  rw [h, List.length_append]
  omega

section Loop

variable {fuel : Nat} {text : List Char} {after c' : Cursor} {gap : Gap}

/-- A word and the gap after it are read, and the scalar goes on after them. -/
theorem quotedLoop?_gap {x : Char} (hw : ∀ y ∈ w, inWord single y = true) (hx : separates x = true)
    (h : c.rest = w.flatMap (spell single) ++ x :: rest) (hcolumn : 0 < c.column)
    (hskip : c.skip (w.flatMap (spell single)).length = c')
    (hgap : Gap.take? 0 c'.rest.length {} c' = some (gap, after)) :
    quotedLoop? single (fuel + 1) text c =
      quotedLoop? single fuel (text ++ w ++ gap.text) after := by
  have hend : c.atEnd = false := by simp [Cursor.atEnd, h]
  have hword := quotedWord?_front text hw (fun _ _ _ h => quotedWord?_separator h hx) h
  rw [hskip] at hword
  have hmark : c'.atChar (if single then '\'' else '"') = false := by
    have hnext : c'.rest = x :: rest := hskip ▸ Cursor.rest_skip h
    rw [Cursor.atChar, hnext, List.head?_cons, decide_eq_false_iff_not]
    intro heq
    obtain rfl := Option.some.inj heq
    cases single <;> cases hx
  rw [quotedLoop?]
  simp [atMarker_of_column_pos hcolumn, hend, hword, hmark, hgap]

/-- A word and the closing quote after it are read. -/
theorem quotedLoop?_end (hw : ∀ y ∈ w, inWord single y = true)
    (h : c.rest = w.flatMap (spell single) ++ quoteMark single :: rest)
    (hrest : rest.head? ≠ some '\'') (hcolumn : 0 < c.column)
    (hskip : c.skip (w.flatMap (spell single)).length = c') :
    quotedLoop? single (fuel + 1) text c = some (text ++ w, c'.skip 1) := by
  have hend : c.atEnd = false := by simp [Cursor.atEnd, h]
  have hword := quotedWord?_front text hw (fun _ _ _ h => quotedWord?_mark h hrest) h
  rw [hskip] at hword
  have hmark : c'.atChar (if single then '\'' else '"') = true := by
    have hnext : c'.rest = quoteMark single :: rest := hskip ▸ Cursor.rest_skip h
    rw [Cursor.atChar, hnext]
    exact decide_eq_true rfl
  rw [quotedLoop?]
  simp [atMarker_of_column_pos hcolumn, hend, hword, hmark]

end Loop

theorem stops_of_mark {single : Bool} {written : List Char}
    (h : Text.Stops separates (written ++ [quoteMark single])) (rest : List Char) :
    Text.Stops separates (written ++ quoteMark single :: rest) := by
  cases written with
  | nil => exact Text.stops_cons.2 (Text.stops_cons.1 h)
  | cons x written => exact Text.stops_cons.2 (Text.stops_cons.1 h)

namespace Quoted

/-- What is written is read up to the closing quote as the text that it means. -/
theorem exists_quotedLoop? (h : Quoted single written cs)
    (hrest : rest.head? ≠ some '\'') {c : Cursor} (text : List Char) (fuel : Nat)
    (hc : c.rest = written ++ quoteMark single :: rest) (hcolumn : 0 < c.column)
    (hfuel : cs.length < fuel) :
    ∃ after, quotedLoop? single fuel text c = some (text ++ cs, after) ∧ after.rest = rest ∧
      c.line ≤ after.line := by
  -- each gap takes one of the fuel and stands for a character at least, so the text bounds what is
  -- needed
  induction h generalizing c text fuel with
  | @word w hw =>
    obtain ⟨fuel, rfl⟩ : ∃ k, fuel = k + 1 := ⟨fuel - 1, by omega⟩
    exact ⟨_, quotedLoop?_end hw hc hrest hcolumn rfl, Cursor.rest_skip_one (Cursor.rest_skip hc),
      Nat.le_refl c.line⟩
  | @spaces w written cs n hw hstop _ ih =>
    obtain ⟨fuel, rfl⟩ : ∃ k, fuel = k + 1 := ⟨fuel - 1, by omega⟩
    rw [List.append_assoc, List.append_assoc] at hc
    rw [List.length_append, List.length_append, length_spaces] at hfuel
    obtain ⟨c', hskip, hnext, hline⟩ : ∃ c', c.skip (w.flatMap (spell single)).length = c' ∧
        c'.rest = Yaml.spaces (n + 1) ++ (written ++ quoteMark single :: rest) ∧ c.line = c'.line :=
      ⟨_, rfl, Cursor.rest_skip hc, rfl⟩
    have hgap : Gap.take? 0 c'.rest.length {} c' =
        some ({ blanks := Yaml.spaces (n + 1) }, c'.skip (n + 1)) :=
      Gap.take?_spaces rfl hnext (stops_of_mark hstop rest) (by simp [hnext])
    obtain ⟨after, hafter, hrest', hline'⟩ := ih (text ++ w ++ Yaml.spaces (n + 1)) fuel
      (Cursor.rest_skip_spaces hnext) (Nat.succ_pos _) (by omega)
    refine ⟨after, ?_, hrest', hline ▸ hline'⟩
    rw [quotedLoop?_gap hw rfl hc hcolumn hskip hgap]
    simpa [Gap.text] using hafter
  | @breaks w bs written cs b n hw hbs hfirst hstop _ ih =>
    obtain ⟨fuel, rfl⟩ : ∃ k, fuel = k + 1 := ⟨fuel - 1, by omega⟩
    rw [List.append_assoc, List.append_assoc, List.append_assoc] at hc
    rw [List.length_append, List.length_append, List.length_cons] at hfuel
    have hseparates : separates b = true := by
      rw [separates, (hbs b List.mem_cons_self).2, Bool.or_true]
    obtain ⟨c', hskip, hnext, hline⟩ : ∃ c', c.skip (w.flatMap (spell single)).length = c' ∧
        c'.rest = b :: bs ++ (Yaml.spaces (n + 1) ++ (written ++ quoteMark single :: rest)) ∧
        c.line = c'.line :=
      ⟨_, rfl, Cursor.rest_skip hc, rfl⟩
    have hfuel' : bs.length + (n + 1) < c'.rest.length := by
      rw [hnext, List.length_append, List.length_append, List.length_cons, length_spaces]
      omega
    obtain ⟨between, hgap, hbetween, hcolumn', hline'⟩ :=
      Gap.exists_take?_breaks 0 c'.rest.length hnext hbs (stops_of_mark hstop rest) hfuel'
    obtain ⟨after, hafter, hrest', hline''⟩ :=
      ih (text ++ w ++ b :: bs) fuel hbetween (by omega) (by omega)
    have hmeaning : Gap.text ⟨[], true, [b], bs⟩ = b :: bs := by simp [Gap.text, hfirst]
    refine ⟨after, ?_, hrest', by omega⟩
    rw [quotedLoop?_gap hw hseparates hc hcolumn hskip hgap, hmeaning, hafter]
    simp only [List.append_assoc]

theorem length_le (h : Quoted single written cs) : cs.length ≤ written.length := by
  induction h with
  | @word w _ => exact length_le_length_flatMap_spell single w
  | @spaces w _ _ _ _ _ _ ih =>
    have hword := length_le_length_flatMap_spell single w
    simp only [List.length_append]
    omega
  | @breaks w _ _ _ _ _ _ _ _ _ _ ih =>
    have hword := length_le_length_flatMap_spell single w
    simp only [List.length_append]
    omega

/-- A quoted scalar is read as the text that it means. -/
theorem exists_takeQuoted? (h : Quoted single written cs)
    (hrest : rest.head? ≠ some '\'') {c : Cursor}
    (hc : c.rest = quoteMark single :: (written ++ quoteMark single :: rest)) :
    ∃ after, takeQuoted? single c = some (cs, after) ∧ after.rest = rest ∧ c.line ≤ after.line := by
  have hlength := h.length_le
  have hnext := Cursor.rest_skip_one hc
  have hfuel : cs.length < c.rest.length + 1 := by
    rw [hc, List.length_cons, List.length_append]
    omega
  exact h.exists_quotedLoop? hrest [] (c.rest.length + 1) hnext (Nat.succ_pos c.column) hfuel

end Quoted

/-! ### Writing -/

theorem stops_spell {x : Char} (hx : inWord single x = true) (rest : List Char) :
    Text.Stops separates (spell single x ++ rest) := by
  cases single with
  | true =>
    have hsep : separates x = false := by simpa [inWord] using hx
    change Text.Stops separates ((if x = '\'' then ['\'', '\''] else [x]) ++ rest)
    split
    · exact Text.stops_cons.2 rfl
    · exact Text.stops_cons.2 hsep
  | false =>
    have hspace : x ≠ ' ' := by simpa [inWord] using hx
    change Text.Stops separates (escape x ++ rest)
    rcases escape_cases x with ⟨letter, hletter, heq⟩ | ⟨hletter, -, heq⟩ |
      ⟨letter, width, hwidth, hnumber, heq⟩ <;>
      rw [heq]
    · exact Text.stops_cons.2 rfl
    · obtain ⟨-, -, hbreak, htab⟩ := of_escapeLetter?_eq_none hletter
      refine Text.stops_cons.2 ?_
      simp [separates, isBlankChar, hspace, htab, hbreak]
    · exact Text.stops_cons.2 rfl

theorem flatMap_spaces {write : Char → List Char} (h : write ' ' = [' ']) (n : Nat) :
    (spaces n).flatMap write = spaces n := by
  induction n with
  | zero => rfl
  | succ n ih => rw [spaces_succ, List.flatMap_cons, h, ih, List.singleton_append]

/-- Within double quotes every text is one line of words and spaces. -/
theorem quoted_double (cs : List Char) : Quoted false (cs.flatMap escape) cs := by
  -- on the length: a word, a run of spaces, and what is left
  induction hn : cs.length using Nat.strongRecOn generalizing cs with
  | ind n ih =>
    obtain ⟨w, r, rfl, hw, hstop⟩ := Text.exists_run (inWord false) cs
    cases r with
    | nil =>
      rw [List.append_nil]
      exact .word hw
    | cons x r =>
      obtain rfl : x = ' ' := by simpa [inWord] using Text.stops_cons.1 hstop
      obtain ⟨run, rest, rfl, hrun, hrest⟩ := Text.exists_run (· = ' ') r
      obtain ⟨k, rfl⟩ := exists_eq_spaces fun y hy => of_decide_eq_true (hrun y hy)
      have hspaces : (spaces (k + 1)).flatMap escape = spaces (k + 1) := flatMap_spaces rfl (k + 1)
      have hnext : Text.Stops separates (rest.flatMap escape ++ [quoteMark false]) := by
        cases rest with
        | nil => exact Text.stops_cons.2 rfl
        | cons y rest =>
          have hy : inWord false y = true := by simpa [inWord] using Text.stops_cons.1 hrest
          rw [List.flatMap_cons, List.append_assoc]
          exact stops_spell hy _
      have hlater : Quoted false (rest.flatMap escape) rest :=
        ih rest.length (by simp at hn; omega) rest rfl
      change Quoted false ((w ++ (spaces (k + 1) ++ rest)).flatMap escape)
        (w ++ (spaces (k + 1) ++ rest))
      rw [List.flatMap_append, List.flatMap_append, hspaces]
      exact .spaces hw hnext hlater

/-- What can be written within single quotes. -/
structure SingleText (cs : List Char) : Prop where
  printable : ∀ x ∈ cs, isPrintable x = true
  unbroken : '\n' ∉ cs
  spaceBreak : hasAdjacent (· = ' ') isBreakChar cs = false
  breakSpace : hasAdjacent isBreakChar (· = ' ') cs = false

theorem hasAdjacent_append {p q : Char → Bool} (h : hasAdjacent p q (w ++ rest) = false) :
    hasAdjacent p q rest = false := by
  induction w with
  | nil => exact h
  | cons x w ih =>
    refine ih ?_
    rw [List.cons_append] at h
    generalize w ++ rest = cs at h
    cases cs with
    | nil => rfl
    | cons y cs => exact (Bool.or_eq_false_iff.1 h).2

/-- What follows a run of the first kind is not of the second. -/
theorem eq_false_of_hasAdjacent {p q : Char → Bool} {run : List Char} {x y : Char} (hx : p x = true)
    (hrun : ∀ z ∈ run, p z = true) (h : hasAdjacent p q (x :: (run ++ y :: rest)) = false) :
    q y = false := by
  induction run generalizing x with
  | nil =>
    have hfirst := (Bool.or_eq_false_iff.1 h).1
    rwa [hx, Bool.true_and] at hfirst
  | cons z run ih =>
    obtain ⟨hz, hrun⟩ := List.forall_mem_cons.1 hrun
    exact ih hz hrun (Bool.or_eq_false_iff.1 h).2

theorem SingleText.tail (h : SingleText (w ++ rest)) : SingleText rest :=
  ⟨fun x hx => h.printable x (List.mem_append_right _ hx),
    fun hx => h.unbroken (List.mem_append_right _ hx), hasAdjacent_append h.spaceBreak,
      hasAdjacent_append h.breakSpace⟩

theorem SingleText.ne_tab (h : SingleText cs) {x : Char} (hx : x ∈ cs) : x ≠ '\t' := by
  rintro rfl
  exact absurd (h.printable _ hx) (by decide)

theorem separates_eq (x : Char) :
    separates x = (decide (x = '\t') || decide (x = ' ') || isBreakChar x) := by
  rw [separates, isBlankChar, Bool.or_comm (decide (x = ' '))]

/-- A gap of spaces or of breaks is followed by no gap. -/
theorem SingleText.stops_separates {p q : Char → Bool} {run : List Char} {x : Char}
    (h : SingleText (x :: (run ++ rest))) (hadjacent : hasAdjacent p q (x :: (run ++ rest)) = false)
    (hx : p x = true) (hrun : ∀ y ∈ run, p y = true) (hstop : Text.Stops p rest)
    (hgap : ∀ y, separates y = (decide (y = '\t') || p y || q y)) : Text.Stops separates rest := by
  cases rest with
  | nil => exact Text.stops_nil separates
  | cons y rest =>
    have htab : y ≠ '\t' := h.ne_tab (by simp)
    refine Text.stops_cons.2 ?_
    rw [hgap, decide_eq_false htab, Text.stops_cons.1 hstop,
      eq_false_of_hasAdjacent hx hrun hadjacent]
    rfl

theorem hasAdjacent_of_forall {p q : Char → Bool} (h : ∀ x ∈ cs, p x = false) :
    hasAdjacent p q cs = false := by
  induction cs with
  | nil => rfl
  | cons x rest ih =>
    obtain ⟨hx, hrest⟩ := List.forall_mem_cons.1 h
    cases rest with
    | nil => rfl
    | cons y rest =>
      rw [hasAdjacent, hx, ih hrest]
      rfl

/-- A text whose style is single quotes can be written within them. -/
theorem SingleText.of_style {s : String} (h : Style.ofText s = .singleQuoted) :
    SingleText s.toList := by
  obtain ⟨hunbroken, hreads | ⟨hprintable, hspaceBreak, hbreakSpace⟩⟩ :=
    Style.ofText_eq_singleQuoted h
  · have hspelling := fun x hx => of_isSpellingChar (isSpellingChar_of_not_readsAsText hreads x hx)
    exact ⟨fun x hx => (hspelling x hx).1, hunbroken,
      hasAdjacent_of_forall fun x hx => decide_eq_false (hspelling x hx).2.2,
      hasAdjacent_of_forall fun x hx => (hspelling x hx).2.1⟩
  · exact ⟨hprintable, hunbroken, hspaceBreak, hbreakSpace⟩

section Single

variable {indent : Nat}

theorem singleQuoted_word (indent : Nat) (hw : ∀ x ∈ w, isBreakChar x = false) (rest : List Char) :
    singleQuoted indent false (w ++ rest) = w.flatMap (spell true) ++
      singleQuoted indent false rest := by
  induction w with
  | nil => rfl
  | cons x w ih =>
    obtain ⟨hx, hw⟩ := List.forall_mem_cons.1 hw
    rw [List.cons_append, singleQuoted, hx, ih hw, List.flatMap_cons, List.append_assoc]
    simp [spell]

theorem singleQuoted_breaks {bs : List Char} (hbs : ∀ x ∈ bs, isBreakChar x = true)
    (rest : List Char) :
    singleQuoted indent true (bs ++ rest) = bs ++ singleQuoted indent true rest := by
  induction bs with
  | nil => rfl
  | cons x bs ih =>
    obtain ⟨hx, hbs⟩ := List.forall_mem_cons.1 hbs
    rw [List.cons_append, singleQuoted, hx, if_pos rfl, ih hbs, List.cons_append]

theorem singleQuoted_line (hstop : Text.Stops isBreakChar rest) :
    singleQuoted indent true rest = spaces indent ++ singleQuoted indent false rest := by
  cases rest with
  | nil => simp [singleQuoted]
  | cons x rest =>
    have hx : isBreakChar x = false := Text.stops_cons.1 hstop
    simp [singleQuoted, hx]

/-- What follows a gap is written without one. -/
theorem stops_singleQuoted (h : Text.Stops separates rest) :
    Text.Stops separates (singleQuoted indent false rest ++ [quoteMark true]) := by
  cases rest with
  | nil => exact Text.stops_cons.2 rfl
  | cons y rest =>
    have hy : separates y = false := Text.stops_cons.1 h
    have hbreak : isBreakChar y = false := (Bool.or_eq_false_iff.1 hy).2
    have hword := singleQuoted_word indent (w := [y]) (by simpa using hbreak) rest
    rw [List.singleton_append] at hword
    rw [hword, List.flatMap_singleton, List.append_assoc]
    exact stops_spell (by simp [inWord, hy]) _

end Single

/-- Within single quotes the lines of a text go on under the indentation. -/
theorem quoted_single {n : Nat} (h : SingleText cs) :
    Quoted true (singleQuoted (n + 1) false cs) cs := by
  induction hn : cs.length using Nat.strongRecOn generalizing cs with
  | ind m ih =>
    obtain ⟨w, r, rfl, hw, hstop⟩ := Text.exists_run (inWord true) cs
    have hbreaks : ∀ x ∈ w, isBreakChar x = false := by
      intro x hx
      have hx' : separates x = false := by simpa [inWord] using hw x hx
      exact (Bool.or_eq_false_iff.1 hx').2
    rw [singleQuoted_word (n + 1) hbreaks]
    cases r with
    | nil =>
      rw [singleQuoted, List.append_nil]
      simpa using Quoted.word hw
    | cons x r =>
      have hr := h.tail
      have hx : separates x = true := by simpa [inWord] using Text.stops_cons.1 hstop
      by_cases hbreak : isBreakChar x = true
      · obtain ⟨bs, rest, rfl, hbs, hrest⟩ := Text.exists_run isBreakChar r
        have hnext : Text.Stops separates rest :=
          hr.stops_separates hr.breakSpace hbreak hbs hrest fun y => (separates_eq y).trans
            (Bool.or_right_comm ..)
        have hall : ∀ y ∈ x :: bs, isPrintable y = true ∧ isBreakChar y = true := by
          intro y hy
          refine ⟨hr.printable y (List.mem_append_left rest hy), ?_⟩
          rcases List.mem_cons.1 hy with rfl | hy
          · exact hbreak
          · exact hbs y hy
        have hfirst : x ≠ '\n' := by
          rintro rfl
          exact hr.unbroken List.mem_cons_self
        have hlater : Quoted true (singleQuoted (n + 1) false rest) rest :=
          ih rest.length (by simp at hn; omega) (SingleText.tail (w := x :: bs) hr) rfl
        rw [singleQuoted, if_pos hbreak, singleQuoted_breaks hbs, singleQuoted_line hrest]
        exact .breaks hw hall hfirst (stops_singleQuoted hnext) hlater
      · -- no break and no tab, so it is the first of a run of spaces
        have hspace : x = ' ' := by
          have htab := hr.ne_tab (x := x) List.mem_cons_self
          simpa [separates, isBlankChar, hbreak, htab] using hx
        subst hspace
        obtain ⟨run, rest, rfl, hrun, hrest⟩ := Text.exists_run (· = ' ') r
        have hnext : Text.Stops separates rest :=
          hr.stops_separates hr.spaceBreak rfl hrun hrest separates_eq
        have hlater : Quoted true (singleQuoted (n + 1) false rest) rest :=
          ih rest.length (by simp at hn; omega) (SingleText.tail (w := ' ' :: run) hr) rfl
        obtain ⟨k, rfl⟩ := exists_eq_spaces fun y hy => of_decide_eq_true (hrun y hy)
        have hword := singleQuoted_word (n + 1) (w := spaces (k + 1))
          (fun y hy => by rw [eq_space_of_mem_spaces hy]; rfl) rest
        rw [flatMap_spaces rfl] at hword
        change Quoted true (_ ++ singleQuoted (n + 1) false (spaces (k + 1) ++ rest))
          (w ++ (spaces (k + 1) ++ rest))
        rw [hword]
        exact .spaces hw (stops_singleQuoted hnext) hlater

end Turnstile.Yaml
