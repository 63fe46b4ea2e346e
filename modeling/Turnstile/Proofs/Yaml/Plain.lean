import Turnstile.Proofs.Yaml.Gaps
import Turnstile.Proofs.Yaml.Spellings

/-!
# Plain scalars

A plain scalar has no marks of its own around it, so it ends where a line does or where a colon
follows. Words without marks in them are read up to there, with the spaces between them as they
stand.

## Main definitions

- `Yaml.Words`, `Yaml.PlainText` — what can be written as a plain scalar
- `Yaml.afterWord?` — going on after a word of a plain scalar

## Main statements

- `Yaml.PlainText.takePlain?_key`, `Yaml.PlainText.exists_takePlain?_line` — reading a plain key and
  a plain value
- `Yaml.PlainText.of_style`, `Yaml.PlainText.of_isAlphanum` — texts that can be written so
-/

namespace Turnstile.Yaml

variable {cs w tail rest : List Char} {floor : Int} {c : Cursor} {b : Bool}

/-- Words with spaces between them on one line, without marks. -/
structure Words (cs : List Char) : Prop where
  ne_nil : cs ≠ []
  head : Text.Stops (· = ' ') cs
  last : cs.getLast? ≠ some ' '
  flat : ∀ c ∈ cs, isBreakChar c = false ∧ c ≠ '\t'
  unmarked : hasInnerMark true cs = false

theorem hasInnerMark_append {x : Char} (h : hasInnerMark b (cs ++ x :: rest) = false) :
    hasInnerMark (separates x) rest = false := by
  induction cs generalizing b with
  | nil =>
    rw [List.nil_append, hasInnerMark, Bool.or_eq_false_iff] at h
    exact h.2
  | cons y cs ih =>
    rw [List.cons_append, hasInnerMark, Bool.or_eq_false_iff] at h
    exact ih h.2

theorem hasInnerMark_of_forall (h : ∀ x ∈ cs, x ≠ ':' ∧ x ≠ '#') : hasInnerMark b cs = false := by
  induction cs generalizing b with
  | nil => rfl
  | cons x cs ih =>
    obtain ⟨⟨hcolon, hhash⟩, hcs⟩ := List.forall_mem_cons.1 h
    rw [hasInnerMark, decide_eq_false hcolon, decide_eq_false hhash, ih hcs]
    rfl

theorem wordEnds_append (h : Cursor.wordEnds cs = false) (rest : List Char) :
    Cursor.wordEnds (cs ++ rest) = false := by
  cases cs with
  | nil => cases h
  | cons x cs => exact h

namespace Words

theorem separates_eq (h : Words cs) {x : Char} (hx : x ∈ cs) : separates x = decide (x = ' ') := by
  obtain ⟨hbreak, htab⟩ := h.flat x hx
  simp [separates, isBlankChar, hbreak, htab]

theorem stops (h : Words cs) (rest : List Char) : Text.Stops separates (cs ++ rest) := by
  obtain ⟨x, xs, rfl⟩ := List.exists_cons_of_ne_nil h.ne_nil
  rw [List.cons_append, Text.stops_cons, h.separates_eq List.mem_cons_self]
  exact Text.stops_cons.1 h.head

/-- Words are one word, or a word, spaces and words. -/
theorem split (h : Words cs) : (∀ x ∈ cs, separates x = false) ∨
    ∃ w n rest, cs = w ++ (spaces (n + 1) ++ rest) ∧ w ≠ [] ∧ (∀ x ∈ w, separates x = false) ∧
      Words rest := by
  by_cases hspace : ' ' ∈ cs
  · right
    obtain ⟨w, r, hcs, hw⟩ := List.eq_append_cons_of_mem hspace
    obtain ⟨run, rest, rfl, hrun, hstop⟩ := Text.exists_run (· = ' ') r
    obtain ⟨n, rfl⟩ := exists_eq_spaces fun x hx => of_decide_eq_true (hrun x hx)
    have hsplit : cs = w ++ (spaces (n + 1) ++ rest) := hcs
    have hrest : rest ≠ [] := by
      rintro rfl
      refine h.last ?_
      rw [hsplit, List.append_nil, spaces, List.replicate_succ', ← List.append_assoc]
      exact List.getLast?_concat ..
    refine ⟨w, n, rest, hsplit, ?_, fun x hx => ?_, ⟨hrest, hstop, ?_, fun x hx => ?_, ?_⟩⟩
    · rintro rfl
      have hhead := h.head ' ' (by rw [hcs]; rfl)
      cases hhead
    · rw [h.separates_eq (hcs ▸ List.mem_append_left _ hx), decide_eq_false_iff_not]
      rintro rfl
      exact hw hx
    · intro hlast
      refine h.last ?_
      rw [hsplit, ← List.append_assoc, List.getLast?_append, hlast, Option.some_or]
    · refine h.flat x ?_
      rw [hsplit]
      exact List.mem_append_right _ (List.mem_append_right _ hx)
    · have hmark := h.unmarked
      rw [hsplit, spaces, List.replicate_succ', ← List.append_assoc, ← List.append_assoc,
        List.append_assoc] at hmark
      exact hasInnerMark_append hmark
  · left
    intro x hx
    rw [h.separates_eq hx, decide_eq_false_iff_not]
    rintro rfl
    exact hspace hx

end Words

/-- The word at the front of words is read up to their end or the first space. -/
theorem plainWord?_run (hw : ∀ x ∈ w, separates x = false)
    (hmark : hasInnerMark b (w ++ rest) = false)
    (hstop : plainWord? false (rest ++ tail) = some []) :
    plainWord? false (w ++ (rest ++ tail)) = some w := by
  induction w generalizing b with
  | nil => exact hstop
  | cons x w ih =>
    obtain ⟨hx, hw⟩ := List.forall_mem_cons.1 hw
    rw [List.cons_append, hasInnerMark, Bool.or_eq_false_iff, Bool.or_eq_false_iff] at hmark
    obtain ⟨⟨hcolon, -⟩, hmark⟩ := hmark
    have hcolon' : (x = ':' && Cursor.wordEnds (w ++ (rest ++ tail))) = false := by
      rw [Bool.and_eq_false_iff] at hcolon ⊢
      refine hcolon.imp_right fun hends => ?_
      rw [← List.append_assoc]
      exact wordEnds_append hends tail
    have hsep : (isBlankChar x || isBreakChar x) = false := hx
    rw [List.cons_append, plainWord?, hsep, hcolon', ih hw hmark]
    rfl

/-- Going on after a word of a plain scalar. -/
def afterWord? (floor : Int) (fuel : Nat) (text : List Char) (c : Cursor) : Option Plain :=
  if !(c.atBlank || c.atBreak) then some ⟨text, false, c⟩
  else do
    let (gap, c) ← Gap.take? floor c.rest.length {} c
    if (c.column : Int) < floor then return ⟨text, gap.broken, c⟩
    plainLoop? false floor fuel text gap c

theorem plainLoop?_word {fuel : Nat} {text : List Char} {gap : Gap} (hmarker : c.atMarker = false)
    (hcomment : c.atChar '#' = false) (hword : plainWord? false c.rest = some w) (hne : w ≠ []) :
    plainLoop? false floor (fuel + 1) text gap c =
      afterWord? floor fuel (text ++ gap.text ++ w) (c.skip w.length) := by
  simp [plainLoop?, afterWord?, hmarker, hcomment, hword, hne]

theorem afterWord?_spaces {fuel n : Nat} {text : List Char} (h : c.rest = spaces (n + 1) ++ rest)
    (hrest : Text.Stops separates rest) (hfloor : floor ≤ c.column) :
    afterWord? floor fuel text c = plainLoop? false floor fuel text { blanks := spaces (n + 1) }
      (c.skip (n + 1)) := by
  have hblank : c.atBlank = true := by rw [Cursor.atBlank, h]; rfl
  have hgap : Gap.take? floor c.rest.length {} c =
      some ({ blanks := spaces (n + 1) }, c.skip (n + 1)) :=
    Gap.take?_spaces rfl h hrest (by simp [h])
  have hcolumn : ¬ (c.column : Int) + ((n : Int) + 1) < floor := by omega
  simp [afterWord?, hblank, hgap, hcolumn]

theorem afterWord?_colon {fuel : Nat} {text : List Char} (h : c.rest = ':' :: rest) :
    afterWord? floor fuel text c = some ⟨text, false, c⟩ := by
  simp [afterWord?, Cursor.atBlank, Cursor.atBreak, h, isBlankChar, isBreakChar]

/-- A line break after a word, before a line that is not indented enough, ends the scalar. -/
theorem exists_afterWord?_break {fuel n : Nat} {text : List Char}
    (h : c.rest = '\n' :: (spaces n ++ rest)) (hrest : Text.Stops separates rest)
    (hfloor : (n : Int) < floor) :
    ∃ after, afterWord? floor fuel text c = some ⟨text, true, after⟩ ∧ after.rest = rest ∧
      after.column = n ∧
      c.line < after.line := by
  have hbreak : c.atBreak = true := by rw [Cursor.atBreak, h]; rfl
  have hbs : ∀ y ∈ ['\n'], isPrintable y = true ∧ isBreakChar y = true :=
    List.forall_mem_singleton.2 ⟨rfl, rfl⟩
  have hfuel : ([] : List Char).length + n < c.rest.length := by
    rw [h, List.length_cons, List.length_append, length_spaces, List.length_nil]
    omega
  obtain ⟨after, hgap, hafter, hcolumn, hline⟩ :=
    Gap.exists_take?_breaks floor c.rest.length h hbs hrest hfuel
  refine ⟨after, ?_, hafter, hcolumn, hline⟩
  have hlow : (after.column : Int) < floor := by rw [hcolumn]; exact hfloor
  simp [afterWord?, hbreak, hgap, hlow]

theorem atMarker_of_column_pos (h : 0 < c.column) : c.atMarker = false := by
  have hne : c.column ≠ 0 := Nat.pos_iff_ne_zero.1 h
  simp [Cursor.atMarker, Cursor.atMark, hne]

theorem Words.atChar_hash (h : Words cs) (hrest : c.rest = cs ++ rest) : c.atChar '#' = false := by
  obtain ⟨x, xs, rfl⟩ := List.exists_cons_of_ne_nil h.ne_nil
  have hmark := h.unmarked
  rw [hasInnerMark, Bool.or_eq_false_iff, Bool.or_eq_false_iff] at hmark
  have hx : x ≠ '#' := by simpa using hmark.1.2
  simpa [Cursor.atChar, hrest] using hx

/-- Words of a plain scalar are read up to what ends the last one. -/
theorem exists_plainLoop?_eq (floor : Int) (htail : plainWord? false tail = some [])
    {cs : List Char} (h : Words cs) (text : List Char) (gap : Gap) {c : Cursor} (fuel : Nat)
    (hrest : c.rest = cs ++ tail) (hmarker : c.atMarker = false) (hfloor : floor ≤ c.column + 1)
    (hfuel : cs.length < fuel) :
    ∃ left, plainLoop? false floor fuel text gap c =
      afterWord? floor left (text ++ gap.text ++ cs) (c.skip cs.length) := by
  -- on the length: behind the first spaces there are words again
  induction hn : cs.length using Nat.strongRecOn generalizing cs text gap c fuel with
  | ind n ih =>
    obtain ⟨fuel, rfl⟩ : ∃ k, fuel = k + 1 := ⟨fuel - 1, by omega⟩
    have hcomment := h.atChar_hash hrest
    rcases h.split with hword | ⟨w, k, later, hcs, hne, hw, hlater⟩
    · have hread : plainWord? false c.rest = some cs := by
        have hmark := h.unmarked
        rw [← List.append_nil cs] at hmark
        rw [hrest]
        exact plainWord?_run hword hmark htail
      exact ⟨fuel, hn ▸ plainLoop?_word hmarker hcomment hread h.ne_nil⟩
    · have hgo : plainWord? false (spaces (k + 1) ++ later ++ tail) = some [] := rfl
      have hread : plainWord? false c.rest = some w := by
        rw [hrest, hcs, List.append_assoc]
        exact plainWord?_run hw (hcs ▸ h.unmarked) hgo
      have hwpos : 0 < w.length := List.length_pos_iff.2 hne
      have hafter : (c.skip w.length).rest = spaces (k + 1) ++ (later ++ tail) := by
        refine Cursor.rest_skip ?_
        rw [hrest, hcs, List.append_assoc, List.append_assoc]
      have hstop : Text.Stops separates (later ++ tail) := hlater.stops tail
      have hcolumn : floor ≤ (c.skip w.length).column := by
        rw [Cursor.column_skip]
        omega
      have hnext : ((c.skip w.length).skip (k + 1)).rest = later ++ tail :=
        Cursor.rest_skip_spaces hafter
      have hmarker' : ((c.skip w.length).skip (k + 1)).atMarker = false :=
        atMarker_of_column_pos (by rw [Cursor.column_skip]; exact Nat.succ_pos _)
      have hcolumn' : floor ≤ ((c.skip w.length).skip (k + 1)).column + 1 := by
        rw [Cursor.column_skip]
        omega
      have hlength : cs.length = w.length + (k + 1 + later.length) := by simp [hcs]
      obtain ⟨left, hleft⟩ := ih later.length (by omega) hlater (text ++ gap.text ++ w)
        { blanks := spaces (k + 1) } fuel hnext hmarker' hcolumn' (by omega) rfl
      have hgap : Gap.text { blanks := spaces (k + 1) } = spaces (k + 1) := rfl
      refine ⟨left, ?_⟩
      rw [plainLoop?_word hmarker hcomment hread hne,
        afterWord?_spaces hafter hstop hcolumn, hleft, hgap, Cursor.skip_skip,
        Cursor.skip_skip, ← hlength, hn, hcs]
      simp only [List.append_assoc]

/-! ### Plain scalars -/

theorem take_three_of_append {x : Char} (hne : cs ≠ []) (htail : tail.head? ≠ some x)
    (h : (cs ++ tail).take 3 = [x, x, x]) : cs.take 3 = [x, x, x] := by
  match cs, hne with
  | [y], _ =>
    cases tail with
    | nil => cases h
    | cons z tail =>
      simp at h htail
      exact absurd h.2.1 htail
  | [y, z], _ =>
    cases tail with
    | nil => cases h
    | cons u tail =>
      simp at h htail
      exact absurd h.2.2 htail
  | y :: z :: u :: later, _ => exact h

/-- What can be written as a plain scalar. -/
structure PlainText (cs : List Char) : Prop extends Words cs where
  printable : ∀ x ∈ cs, isPrintable x = true
  unmistakable : hasMark cs = false

namespace PlainText

theorem take_ne (h : PlainText cs) : cs.take 3 ≠ ['-', '-', '-'] ∧ cs.take 3 ≠ ['.', '.', '.'] := by
  obtain ⟨x, xs, rfl⟩ := List.exists_cons_of_ne_nil h.ne_nil
  have hmark := h.unmistakable
  simp only [hasMark, Bool.or_eq_false_iff, decide_eq_false_iff_not] at hmark
  exact hmark.1.1.1

theorem atMarker_eq_false (h : PlainText cs) (hrest : c.rest = cs ++ tail)
    (hdash : tail.head? ≠ some '-') (hpoint : tail.head? ≠ some '.') : c.atMarker = false := by
  obtain ⟨hdashes, hpoints⟩ := h.take_ne
  have hdashes' := mt (take_three_of_append h.ne_nil hdash) hdashes
  have hpoints' := mt (take_three_of_append h.ne_nil hpoint) hpoints
  simp [Cursor.atMarker, Cursor.atMark, hrest, hdashes', hpoints']

/-- A key is read up to its colon. -/
theorem takePlain?_key (h : PlainText cs) {indent : Int} (hrest : c.rest = cs ++ ':' :: rest)
    (hends : Cursor.wordEnds rest = true) (hindent : indent ≤ c.column) :
    takePlain? false indent c = some ⟨cs, false, c.skip cs.length⟩ := by
  have htail : plainWord? false (':' :: rest) = some [] := by
    simp [plainWord?, isBlankChar, isBreakChar, hends]
  have hmarker : c.atMarker = false := h.atMarker_eq_false hrest (by simp) (by simp)
  obtain ⟨left, hleft⟩ :=
    exists_plainLoop?_eq (indent + 1) htail h.toWords [] {} (c.rest.length + 1) hrest hmarker
      (by omega) (by rw [hrest, List.length_append]; omega)
  rw [takePlain?, hleft, afterWord?_colon (Cursor.rest_skip hrest)]
  rfl

/-- A value is read up to the next line. -/
theorem exists_takePlain?_line (h : PlainText cs) {n : Nat} {indent : Int}
    (hrest : c.rest = cs ++ '\n' :: (spaces n ++ rest)) (hstop : Text.Stops separates rest)
    (hindent : indent ≤ c.column) (hn : n ≤ indent) :
    ∃ after, takePlain? false indent c = some ⟨cs, true, after⟩ ∧ after.rest = rest ∧
      after.column = n ∧
      c.line < after.line := by
  have htail : plainWord? false ('\n' :: (spaces n ++ rest)) = some [] := rfl
  have hmarker := h.atMarker_eq_false hrest nofun nofun
  obtain ⟨left, hleft⟩ :=
    exists_plainLoop?_eq (indent + 1) htail h.toWords [] {} (c.rest.length + 1) hrest hmarker
      (by omega) (by rw [hrest, List.length_append]; omega)
  rw [takePlain?, hleft]
  exact exists_afterWord?_break (Cursor.rest_skip hrest) hstop (Int.lt_add_one_of_le hn)

theorem of_compact (hne : cs ≠ []) (hprintable : ∀ x ∈ cs, isPrintable x = true)
    (hcompact : isCompact cs = true) (hmark : hasMark cs = false) : PlainText cs := by
  simp only [isCompact, Bool.and_eq_true, Bool.not_eq_true'] at hcompact
  obtain ⟨⟨hhead, hlast⟩, hbreak⟩ := hcompact
  refine ⟨⟨hne, fun x hx => ?_, fun heq => ?_, fun x hx => ⟨?_, ?_⟩, ?_⟩, hprintable, hmark⟩
  · rw [Option.mem_def.1 hx] at hhead
    simp only [Option.any_some, Bool.or_eq_false_iff] at hhead
    exact hhead.1
  · rw [heq] at hlast
    cases hlast
  · exact Bool.eq_false_iff.2 fun hx' => Bool.eq_false_iff.1 hbreak
      (List.any_eq_true.2 ⟨x, hx, hx'⟩)
  · rintro rfl
    exact absurd (hprintable _ hx) (by decide)
  · obtain ⟨x, xs, rfl⟩ := List.exists_cons_of_ne_nil hne
    simp only [hasMark, Bool.or_eq_false_iff] at hmark
    obtain ⟨⟨⟨-, hfirst⟩, hcolon⟩, hinner⟩ := hmark
    have hhash : (x = '#' && true) = false := by
      rw [Bool.and_true, decide_eq_false_iff_not]
      rintro rfl
      exact absurd hfirst (by decide)
    have hcolon' : (x = ':' && Cursor.wordEnds xs) = false := by
      rw [Bool.and_eq_false_iff, decide_eq_false_iff_not]
      refine (Bool.and_eq_false_iff.1 hcolon).imp_left fun hmarks => ?_
      rintro rfl
      exact absurd hmarks (by decide)
    rw [hasInnerMark, hcolon', hhash, hinner]
    rfl

/-- A text whose style is plain can be written as a plain scalar. -/
theorem of_style {s : String} (h : Style.ofText s = .plain) : PlainText s.toList := by
  obtain ⟨hreads, hprintable, hcompact, hmark⟩ := Style.ofText_eq_plain h
  refine of_compact ?_ hprintable hcompact hmark
  intro hnil
  have hempty : s = "" := String.toList_eq_nil_iff.1 hnil
  rw [hempty] at hreads
  exact absurd hreads (by decide)

/-- So can a word of letters and digits. -/
theorem of_isAlphanum (hne : cs ≠ []) (hall : cs.all Char.isAlphanum = true) : PlainText cs := by
  have h : ∀ x ∈ cs, x.isAlphanum = true := List.all_eq_true.1 hall
  have hnot : ∀ marks : List Char, marks.any Char.isAlphanum = false → ∀ x ∈ cs, x ∉ marks := by
    intro marks hmarks x hx hmem
    exact List.any_eq_false.1 hmarks x hmem (h x hx)
  have hspelling : ∀ x ∈ cs, isPrintable x = true ∧ isBreakChar x = false ∧ x ≠ ' ' :=
    fun x hx => of_isSpellingChar (isSpellingChar_of_isAlphanum (h x hx))
  have hflat : ∀ x ∈ cs, isBreakChar x = false ∧ x ≠ '\t' := by
    refine fun x hx => ⟨(hspelling x hx).2.1, ?_⟩
    rintro rfl
    exact absurd (hspelling _ hx).1 (by decide)
  have hspace : ' ' ∉ cs := fun hx => (hspelling ' ' hx).2.2 rfl
  have hinner : ∀ b cs', (∀ x ∈ cs', x ∈ cs) → hasInnerMark b cs' = false := by
    intro b cs' hsub
    refine hasInnerMark_of_forall fun x hx => ?_
    have hx' := hnot [':', '#'] (by decide) x (hsub x hx)
    simpa using hx'
  obtain ⟨x, xs, rfl⟩ := List.exists_cons_of_ne_nil hne
  refine ⟨⟨hne, ?_, fun hlast => hspace (List.mem_of_getLast? hlast), hflat,
    hinner true _ fun _ hx => hx⟩, fun x hx => (hspelling x hx).1, ?_⟩
  · rw [Text.stops_cons, decide_eq_false_iff_not]
    rintro rfl
    exact hspace List.mem_cons_self
  · have hfirst := hnot ['#', ',', '[', ']', '\x7b', '\x7d', '&', '*', '!', '|', '>', '\'', '"',
      '%', '@', '\x60', '?', ':', '-', '.'] (by decide) x List.mem_cons_self
    simp only [List.mem_cons, not_or] at hfirst
    simp [hasMark, hinner _ xs fun _ hx => List.mem_cons_of_mem _ hx, hfirst]

end PlainText

end Turnstile.Yaml
