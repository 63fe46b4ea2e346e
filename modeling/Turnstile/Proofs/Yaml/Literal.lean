import Turnstile.Proofs.Yaml.Gaps
import Turnstile.Proofs.Yaml.Spellings

/-!
# Literal blocks

A literal block is the lines of a text under an indentation. Its header says how deep that is where
the text itself begins with a space or a break, and which of the breaks at the end belong to the
text.

## Main definitions

- `Yaml.isHinted`, `Yaml.chompOf` — what the header of a text's block says

## Main statements

- `Yaml.exists_takeHeader?`, `Yaml.exists_takeIndent?`, `Yaml.exists_blockLoop?` — reading a header,
  an indentation and the lines of a block
- `Yaml.exists_takeBlock?` — a text is read back from its literal block
-/

namespace Turnstile.Yaml

variable {cs bs rest next : List Char} {c : Cursor} {m n indent : Nat}

/-! ### Headers -/

/-- Whether the header of a text's block gives the indentation. -/
def isHinted (cs : List Char) : Bool := cs.head?.any fun c => c = ' ' || isBreakChar c

/-- What the header of a text's block says about the breaks at its end. -/
def chompOf (cs : List Char) : Chomp :=
  match cs.reverse with
  | [] => .strip
  | [c] => if isBreakChar c then .keep else .strip
  | c :: d :: _ => if !isBreakChar c then .strip else if isBreakChar d then .keep else .clip

/-- The mark for what a header says about breaks. -/
def chompMark : Chomp → List Char
  | .strip => ['-']
  | .clip => []
  | .keep => ['+']

theorem literalHeader_eq (cs : List Char) :
    literalHeader cs = '|' :: (if isHinted cs then ['2'] else []) ++ chompMark (chompOf cs) := by
  unfold literalHeader chompOf isHinted
  rcases cs.reverse with _ | ⟨x, _ | ⟨y, later⟩⟩
  · rfl
  · cases hx : isBreakChar x <;> simp [chompMark, hx]
  · cases hx : isBreakChar x <;> cases hy : isBreakChar y <;> simp [chompMark, hx, hy]

/-- A header is read up to the first line. -/
theorem exists_takeHeader? (hint : Bool) (chomp : Chomp)
    (h : c.rest = (if hint then ['2'] else []) ++ chompMark chomp ++ '\n' :: rest) :
    ∃ after, takeHeader? c = some (chomp, if hint then 2 else 0, after) ∧ after.rest = rest ∧
      after.column = 0 ∧
      c.line < after.line := by
  cases hint <;> cases chomp <;> simp only [chompMark] at h <;>
    simp [takeHeader?, indentDigit?, chomp?, Cursor.head?, Cursor.skip, Cursor.skipBlanks,
      Cursor.skipWhile, Cursor.skipComment, Cursor.atChar, Cursor.atBreak, Cursor.takeBreak,
      isBlankChar, isBreakChar, h]

/-! ### The breaks at the end -/

/-- What a header says about the breaks at the end. -/
def Chomp.tail (chomp : Chomp) (lastBreak empties : List Char) : List Char :=
  match chomp with
  | .strip => []
  | .clip => lastBreak
  | .keep => lastBreak ++ empties

theorem chompOf_strip {x : Char} (hx : isBreakChar x = false) (front : List Char) :
    chompOf (front ++ [x]) = .strip := by
  unfold chompOf
  rw [List.reverse_append]
  cases front.reverse <;> simp [hx]

theorem chompOf_clip {x b : Char} (hx : isBreakChar x = false) (hb : isBreakChar b = true)
    (front : List Char) :
    chompOf (front ++ [x] ++ [b]) = .clip := by
  simp [chompOf, hx, hb]

theorem chompOf_keep {y z : Char} (hy : isBreakChar y = true) (hz : isBreakChar z = true)
    (front : List Char) :
    chompOf (front ++ [y, z]) = .keep := by
  simp [chompOf, hy, hz]

theorem exists_append_singleton (x : Char) (cs : List Char) : ∃ front y, x :: cs = front ++ [y] :=
  ⟨_, _, (List.dropLast_concat_getLast (List.cons_ne_nil x cs)).symm⟩

/-- A text with several breaks at its end keeps them. -/
theorem chompOf_of_breaks {x y : Char} (front : List Char)
    (h : ∀ z ∈ x :: y :: bs, isBreakChar z = true) :
    chompOf (front ++ x :: y :: bs) = .keep := by
  obtain ⟨init, z, hlast⟩ := exists_append_singleton y bs
  obtain ⟨init', u, hinit⟩ := exists_append_singleton x init
  have hsplit : x :: y :: bs = init' ++ [u, z] := by
    rw [hlast, ← List.cons_append, hinit, List.append_assoc]
    rfl
  rw [hsplit] at h ⊢
  rw [← List.append_assoc]
  exact chompOf_keep (h u (by simp)) (h z (by simp)) (front ++ init')

/-- The breaks that belong to a text are what its header says of those after its last line. -/
theorem append_tail_chompOf {body : List Char} {b x : Char} (h : endLine cs = body ++ b :: bs)
    (hbody : body.getLast? = some x) (hx : isBreakChar x = false)
    (hbs : ∀ y ∈ b :: bs, isBreakChar y = true) :
    body ++ (chompOf cs).tail [b] bs = cs := by
  obtain ⟨front, rfl⟩ := List.getLast?_eq_some_iff.1 hbody
  by_cases hlast : cs.getLast?.any isBreakChar = true
  · have hcs : cs = front ++ [x] ++ b :: bs := by
      rw [← h, endLine, if_pos hlast]
    cases bs with
    | nil =>
      have hclip := chompOf_clip hx (hbs b List.mem_cons_self) front
      rw [hcs, hclip]
      rfl
    | cons y bs =>
      rw [hcs, chompOf_of_breaks _ hbs]
      rfl
  · have hcs : cs ++ ['\n'] = front ++ [x] ++ b :: bs := by
      rw [← h, endLine, if_neg hlast]
    obtain ⟨init, z, hinit⟩ := exists_append_singleton b bs
    rw [hinit, ← List.append_assoc] at hcs
    obtain ⟨rfl, -⟩ := List.append_inj' hcs rfl
    cases init with
    | nil =>
      rw [List.append_nil, chompOf_strip hx]
      exact List.append_nil _
    | cons y init =>
      exfalso
      obtain ⟨later, u, hlater⟩ := exists_append_singleton y init
      have hu : isBreakChar u = true := by
        refine hbs u ?_
        rw [hinit, hlater]
        simp
      refine hlast ?_
      rw [hlater, ← List.append_assoc, List.getLast?_concat]
      exact hu

/-! ### Lines -/

theorem takeWhile_spaces (h : Text.Stops (· = ' ') rest) (n : Nat) :
    (spaces n ++ rest).takeWhile (· = ' ') = spaces n :=
  Text.takeWhile_run (fun _ hx => decide_eq_true (eq_space_of_mem_spaces hx)) h

theorem length_takeWhile_spaces_le (n : Nat) (rest : List Char) :
    n ≤ ((spaces n ++ rest).takeWhile (· = ' ')).length := by
  rw [List.takeWhile_append_of_pos fun x hx => decide_eq_true (eq_space_of_mem_spaces hx),
    List.length_append, length_spaces]
  exact Nat.le_add_right n _

/-- How many of the spaces at a cursor count as the indentation of a line. -/
def indentation (indent : Nat) (c : Cursor) : Nat :=
  if indent = 0 then (c.rest.takeWhile (· = ' ')).length
  else min (c.rest.takeWhile (· = ' ')).length (indent - c.column)

section Indentation

variable {fuel deepest k : Nat} {breaks : List Char} {x : Char}

theorem takeIndent?_succ (hk : indentation indent c = k) :
    takeIndent? indent (fuel + 1) deepest breaks c =
      if (indent = 0 || c.column + k < indent) && (c.skip k).atChar '\t' then none
      else if (c.skip k).atBreak then
        takeIndent? indent fuel (max deepest (c.column + k)) (breaks ++ (c.skip k).takeBreak.1)
          (c.skip k).takeBreak.2
      else some (max deepest (c.column + k), breaks, c.skip k) := by
  subst hk
  rfl

/-- A line that holds something is indented up to there. -/
theorem takeIndent?_line (hk : indentation indent c = k) (hrest : (c.skip k).rest = rest)
    (hbreak : Text.Stops isBreakChar rest)
    (hshallow : indent = 0 ∨ c.column + k < indent → Text.Stops separates rest) :
    takeIndent? indent (fuel + 1) deepest breaks c =
      some (max deepest (c.column + k), breaks, c.skip k) := by
  have hatBreak : (c.skip k).atBreak = false := by
    rw [Cursor.atBreak, hrest]
    cases rest with
    | nil => rfl
    | cons x rest => exact Text.stops_cons.1 hbreak
  have htab : ((indent = 0 || c.column + k < indent) && (c.skip k).atChar '\t') = false := by
    rw [Bool.and_eq_false_imp]
    intro hshallow'
    have hstop := hshallow (by simpa using hshallow')
    rw [Cursor.atChar, hrest, decide_eq_false_iff_not]
    intro hhead
    have htab := hstop '\t' hhead
    cases htab
  rw [takeIndent?_succ hk, hatBreak, htab]
  rfl

/-- An empty line counts as its break. -/
theorem takeIndent?_empty (h : c.rest = x :: rest) (hprintable : isPrintable x = true)
    (hbreak : isBreakChar x = true) (hcolumn : c.column = 0) :
    takeIndent? indent (fuel + 1) deepest breaks c =
      takeIndent? indent fuel deepest (breaks ++ [x]) ⟨rest, c.index + 1, c.line + 1, 0⟩ := by
  have hspace : x ≠ ' ' := by
    rintro rfl
    cases hbreak
  have htab : x ≠ '\t' := by
    rintro rfl
    cases hbreak
  have hk : indentation indent c = 0 := by simp [indentation, h, hspace]
  have htake := Cursor.takeBreak_cons h hprintable hbreak
  simp [takeIndent?_succ hk, Cursor.atChar, Cursor.atBreak, h, htab, hbreak, htake, hcolumn]

end Indentation

/-- Empty lines and then the indentation of a line are read. What is deeper than the block belongs
to the line. -/
theorem exists_takeIndent? (fuel deepest : Nat) (breaks : List Char) {c : Cursor}
    (h : c.rest = bs ++ (spaces n ++ rest))
    (hbs : ∀ x ∈ bs, isPrintable x = true ∧ isBreakChar x = true) (hindent : 0 < indent)
    (hcolumn : c.column = 0) (hrest : Text.Stops isBreakChar rest)
    (hn : n = indent ∨ (n < indent ∧ Text.Stops separates rest)) (hfuel : bs.length < fuel) :
    ∃ deepest' after, takeIndent? indent fuel deepest breaks c =
      some (deepest', breaks ++ bs, after) ∧
      after.rest = rest ∧ after.column = n ∧ c.line ≤ after.line := by
  induction bs generalizing fuel deepest breaks c with
  | nil =>
    obtain ⟨fuel, rfl⟩ : ∃ k, fuel = k + 1 := ⟨fuel - 1, by omega⟩
    rw [List.nil_append] at h
    have hk : indentation indent c = n := by
      have hne : indent ≠ 0 := Nat.pos_iff_ne_zero.1 hindent
      rw [indentation, if_neg hne, hcolumn, h]
      rcases hn with rfl | ⟨hn, hstop⟩
      · have hlength := length_takeWhile_spaces_le n rest
        omega
      · rw [takeWhile_spaces (stops_space hstop), length_spaces]
        omega
    have hskip := Cursor.rest_skip_spaces h
    refine ⟨max deepest (c.column + n), c.skip n, ?_, hskip, ?_, Nat.le_refl _⟩
    · rw [List.append_nil]
      refine takeIndent?_line hk hskip hrest fun hshallow => ?_
      exact (hn.resolve_left (by omega)).2
    · rw [Cursor.column_skip, hcolumn, Nat.zero_add]
  | cons x bs ih =>
    obtain ⟨fuel, rfl⟩ : ∃ k, fuel = k + 1 := ⟨fuel - 1, by omega⟩
    obtain ⟨⟨hprintable, hbreak⟩, hbs⟩ := List.forall_mem_cons.1 hbs
    rw [List.length_cons] at hfuel
    rw [List.cons_append] at h
    obtain ⟨deepest', after, hafter, hrest', hcolumn', hline⟩ := ih fuel deepest (breaks ++ [x])
      (c := ⟨bs ++ (spaces n ++ rest), c.index + 1, c.line + 1, 0⟩) rfl hbs rfl (by omega)
    refine ⟨deepest', after, ?_, hrest', hcolumn', Nat.le_of_succ_le hline⟩
    rw [takeIndent?_empty h hprintable hbreak hcolumn, hafter, List.append_assoc]
    rfl

theorem literalLines_line {w : List Char} (hw : ∀ x ∈ w, isBreakChar x = false) (rest : List Char) :
    literalLines indent false (w ++ rest) = w ++ literalLines indent false rest := by
  induction w with
  | nil => rfl
  | cons x w ih =>
    obtain ⟨hx, hw⟩ := List.forall_mem_cons.1 hw
    rw [List.cons_append, literalLines, hx, ih hw]
    rfl

theorem literalLines_breaks {b : Bool} (hbs : ∀ x ∈ bs, isBreakChar x = true)
    (hb : bs = [] → b = true) (rest : List Char) :
    literalLines indent b (bs ++ rest) = bs ++ literalLines indent true rest := by
  induction bs generalizing b with
  | nil => rw [hb rfl, List.nil_append, List.nil_append]
  | cons x bs ih =>
    obtain ⟨hx, hbs⟩ := List.forall_mem_cons.1 hbs
    rw [List.cons_append, literalLines, hx, if_pos rfl, ih hbs fun _ => rfl, List.cons_append]

theorem literalLines_start (hne : cs ≠ []) (hstop : Text.Stops isBreakChar cs) :
    literalLines indent true cs = spaces indent ++ literalLines indent false cs := by
  obtain ⟨x, rest, rfl⟩ := List.exists_cons_of_ne_nil hne
  simp [literalLines, Text.stops_cons.1 hstop]

/-- The first line of a block begins as its text does. -/
theorem stops_literalLines {p : Char → Bool} (hne : cs ≠ []) (h : Text.Stops p cs)
    (rest : List Char) :
    Text.Stops p (literalLines indent false cs ++ rest) := by
  obtain ⟨x, cs, rfl⟩ := List.exists_cons_of_ne_nil hne
  have hx : p x = false := Text.stops_cons.1 h
  rw [literalLines]
  split <;> exact Text.stops_cons.2 hx

theorem length_le_length_literalLines (b : Bool) (cs : List Char) :
    cs.length ≤ (literalLines indent b cs).length := by
  induction cs generalizing b with
  | nil => exact Nat.zero_le _
  | cons x cs ih =>
    rw [literalLines]
    split
    · exact Nat.succ_le_succ (ih true)
    · have hrest := ih false
      simp only [List.length_append, List.length_cons]
      omega

/-- A text that ends with a break is a line, breaks and perhaps more lines. -/
theorem exists_line (hne : cs ≠ []) (hstop : Text.Stops isBreakChar cs)
    (hlast : cs.getLast?.any isBreakChar = true) :
    ∃ front x y bs rest, cs = front ++ [x] ++ (y :: bs ++ rest) ∧
      (∀ z ∈ front ++ [x], isBreakChar z = false) ∧
      (∀ z ∈ y :: bs, isBreakChar z = true) ∧ Text.Stops isBreakChar rest ∧
      (rest ≠ [] → rest.getLast?.any isBreakChar = true) := by
  obtain ⟨z, cs, rfl⟩ := List.exists_cons_of_ne_nil hne
  have hz : isBreakChar z = false := Text.stops_cons.1 hstop
  obtain ⟨w, r, rfl, hw, hr⟩ := Text.exists_run (fun x => !isBreakChar x) cs
  obtain ⟨front, x, hline⟩ := exists_append_singleton z w
  have hflat : ∀ y ∈ front ++ [x], isBreakChar y = false := by
    intro y hy
    rw [← hline] at hy
    rcases List.mem_cons.1 hy with rfl | hy
    · exact hz
    · simpa using hw y hy
  rw [← List.cons_append, hline] at hlast ⊢
  cases r with
  | nil =>
    rw [List.append_nil, List.getLast?_concat, Option.any_some, hflat x (by simp)] at hlast
    cases hlast
  | cons y r =>
    obtain ⟨bs, rest, rfl, hbs, hrest⟩ := Text.exists_run isBreakChar r
    have hy : isBreakChar y = true := by simpa using Text.stops_cons.1 hr
    refine ⟨front, x, y, bs, rest, rfl, hflat, List.forall_mem_cons.2 ⟨hy, hbs⟩, hrest,
      fun hne => ?_⟩
    obtain ⟨u, later, rfl⟩ := List.exists_cons_of_ne_nil hne
    obtain ⟨init, v, hinit⟩ := exists_append_singleton u later
    rw [hinit, ← List.cons_append, ← List.append_assoc, ← List.append_assoc,
      List.getLast?_concat] at hlast
    rwa [hinit, List.getLast?_concat]

/-! ### Blocks -/

/-- All that a block has come to, with the breaks at its end. -/
def Block.whole (b : Block) : List Char := b.text ++ b.lastBreak ++ b.empties

/-- A block has come to a text that ends with a line and breaks after it. -/
def Block.Ends (b : Block) (cs : List Char) : Prop :=
  ∃ front x y, cs = front ++ [x] ++ y :: b.empties ∧ b.text = front ++ [x] ∧ b.lastBreak = [y] ∧
    isBreakChar x = false ∧ ∀ z ∈ y :: b.empties, isBreakChar z = true

section Loop

variable {fuel : Nat} {b : Block}

theorem blockLoop?_of_column_ne (h : c.column ≠ indent) :
    blockLoop? false indent fuel b c = some (b, c) := by
  cases fuel with
  | zero => rfl
  | succ fuel => simp [blockLoop?, h]

/-- A line of a block is read with the breaks after it and the indentation of the next line. -/
theorem exists_blockLoop?_line (fuel : Nat) (b : Block) {w : List Char} {x : Char}
    (h : c.rest = w ++ (x :: bs ++ (spaces n ++ rest)))
    (hw : ∀ y ∈ w, isBreakChar y = false)
    (hbs : ∀ y ∈ x :: bs, isPrintable y = true ∧ isBreakChar y = true)
    (hcolumn : c.column = indent) (hindent : 0 < indent) (hrest : Text.Stops isBreakChar rest)
    (hn : n = indent ∨ (n < indent ∧ Text.Stops separates rest)) :
    ∃ after, blockLoop? false indent (fuel + 1) b c =
        blockLoop? false indent fuel ⟨b.whole ++ w, [x], bs, c.atBlank⟩ after ∧
      after.rest = rest ∧ after.column = n ∧ c.line < after.line := by
  obtain ⟨⟨hprintable, hbreak⟩, hbs⟩ := List.forall_mem_cons.1 hbs
  have hline : c.rest.takeWhile (fun y => !isBreakChar y) = w := by
    rw [h]
    refine Text.takeWhile_run (fun y hy => by rw [hw y hy]; rfl) (Text.stops_cons.2 ?_)
    rw [hbreak]
    rfl
  have hskip : (c.skip w.length).rest = x :: (bs ++ (spaces n ++ rest)) := Cursor.rest_skip h
  obtain ⟨between, htake, hbetween, hstart, hnextLine⟩ :
      ∃ between, (c.skip w.length).takeBreak = ([x], between) ∧
        between.rest = bs ++ (spaces n ++ rest) ∧ between.column = 0 ∧ between.line = c.line + 1 :=
    ⟨_, Cursor.takeBreak_cons hskip hprintable hbreak, rfl, rfl, rfl⟩
  obtain ⟨deepest, after, hafter, hrest', hcolumn', hline'⟩ :=
    exists_takeIndent? (between.rest.length + 1) 0 [] hbetween hbs hindent hstart hrest hn
      (by rw [hbetween, List.length_append]; omega)
  have hend : c.atEnd = false := by
    rw [Cursor.atEnd, h]
    cases w <;> rfl
  refine ⟨after, ?_, hrest', hcolumn', by omega⟩
  rw [blockLoop?]
  simp [hcolumn, hend, hline, htake, hafter, Block.join, Block.whole]

/-- The lines of a block are read up to a line that is not indented enough. -/
theorem exists_blockLoop? {cs : List Char} (hprintable : ∀ x ∈ cs, isPrintable x = true)
    (hne : cs ≠ []) (hstop : Text.Stops isBreakChar cs) (hlast : cs.getLast?.any isBreakChar = true)
    {c : Cursor} (fuel : Nat) (b : Block)
    (h : c.rest = literalLines indent false cs ++ (spaces m ++ next)) (hcolumn : c.column = indent)
    (hm : m < indent) (hnext : Text.Stops separates next) (hfuel : cs.length < fuel) :
    ∃ b' after, blockLoop? false indent fuel b c = some (b', after) ∧ b'.Ends (b.whole ++ cs) ∧
      after.rest = next ∧
      after.column = m ∧ c.line < after.line := by
  -- on the length: a line and the breaks after it, and then the lines that are left
  induction hk : cs.length using Nat.strongRecOn generalizing cs c fuel b with
  | ind k ih =>
    obtain ⟨fuel, rfl⟩ : ∃ k, fuel = k + 1 := ⟨fuel - 1, by omega⟩
    obtain ⟨front, x, y, bs, rest, rfl, hline, hbs, hrest, hlast'⟩ := exists_line hne hstop hlast
    have hbs' : ∀ z ∈ y :: bs, isPrintable z = true ∧ isBreakChar z = true :=
      fun z hz => ⟨hprintable z (List.mem_append_right _ (List.mem_append_left rest hz)), hbs z hz⟩
    have hindent : 0 < indent := Nat.zero_lt_of_lt hm
    have hx : isBreakChar x = false := hline x (by simp)
    have hlines : c.rest = front ++ [x] ++
        (y :: bs ++ (literalLines indent true rest ++ (spaces m ++ next))) := by
      rw [h, literalLines_line hline, literalLines_breaks hbs nofun, List.append_assoc,
        List.append_assoc (y :: bs)]
    simp only [List.length_append, List.length_cons] at hk hfuel
    by_cases hrest' : rest = []
    · subst hrest'
      obtain ⟨after, hafter, hnext', hcolumn', hline'⟩ :=
        exists_blockLoop?_line fuel b hlines hline hbs' hcolumn hindent (stops_isBreakChar hnext)
          (Or.inr ⟨hm, hnext⟩)
      refine ⟨_, after, hafter.trans (blockLoop?_of_column_ne (by omega)), ?_, hnext',
        hcolumn', hline'⟩
      exact ⟨b.whole ++ front, x, y, by simp, by simp, rfl, hx, hbs⟩
    · rw [literalLines_start hrest' hrest, List.append_assoc (spaces indent)] at hlines
      have hstop' : Text.Stops isBreakChar (literalLines indent false rest ++ (spaces m ++ next)) :=
        stops_literalLines hrest' hrest _
      obtain ⟨between, hbetween, hnext', hcolumn', hline'⟩ :=
        exists_blockLoop?_line fuel b hlines hline hbs' hcolumn hindent hstop' (Or.inl rfl)
      have hprintable' : ∀ z ∈ rest, isPrintable z = true :=
        fun z hz => hprintable z (List.mem_append_right _ (List.mem_append_right _ hz))
      obtain ⟨b', after, hafter, hends, hnext'', hcolumn'', hline''⟩ :=
        ih rest.length (by omega) hprintable' hrest' hrest (hlast' hrest') fuel
          ⟨b.whole ++ (front ++ [x]), [y], bs, c.atBlank⟩ hnext' hcolumn' (by omega) rfl
      refine ⟨b', after, hbetween.trans hafter, ?_, hnext'', hcolumn'', by omega⟩
      simpa [Block.whole] using hends

end Loop

/-! ### Literal scalars -/

/-- A text that ends with a line is read back from the block that it is all of. -/
theorem Block.Ends.tail_eq {b : Block} (h : b.Ends (endLine cs)) :
    b.text ++ (chompOf cs).tail b.lastBreak b.empties = cs := by
  obtain ⟨front, x, y, hcs, htext, hlast, hx, hbs⟩ := h
  rw [htext, hlast]
  exact append_tail_chompOf hcs (List.getLast?_concat ..) hx hbs

/-- The lines of a text that goes on are its lines and those that follow. -/
theorem exists_literalLines_append (indent : Nat) (b : Bool) (cs : List Char) :
    ∃ b', ∀ rest, literalLines indent b (cs ++ rest) = literalLines indent b cs ++
      literalLines indent b' rest := by
  induction cs generalizing b with
  | nil => exact ⟨b, fun _ => rfl⟩
  | cons x cs ih =>
    obtain ⟨b', hb'⟩ := ih (isBreakChar x)
    refine ⟨b', fun rest => ?_⟩
    rw [List.cons_append, literalLines, literalLines]
    split
    · next hx =>
      rw [hx] at hb'
      rw [hb', List.cons_append]
    · next hx =>
      rw [Bool.eq_false_iff.2 hx] at hb'
      rw [hb', ← List.cons_append, List.append_assoc]

theorem getLast?_literalLines (b : Bool) (cs : List Char) :
    (literalLines indent b cs).getLast? = cs.getLast? := by
  cases cs with
  | nil => rfl
  | cons x cs =>
    obtain ⟨front, y, hlast⟩ := exists_append_singleton x cs
    obtain ⟨b', hb'⟩ := exists_literalLines_append indent b front
    have hy : (literalLines indent b' [y]).getLast? = some y := by
      rw [literalLines]
      split
      · rfl
      · rw [literalLines]
        exact List.getLast?_concat ..
    rw [hlast, hb', List.getLast?_append, hy, List.getLast?_concat]
    rfl

/-- The line of a block ends as its text does. -/
theorem endLine_literal (hne : cs ≠ []) :
    endLine (literalHeader cs ++ '\n' :: literalLines indent true cs) =
      literalHeader cs ++ '\n' :: literalLines indent true (endLine cs) := by
  have hlast : (literalHeader cs ++ '\n' :: literalLines indent true cs).getLast? =
      cs.getLast? := by
    obtain ⟨x, hx⟩ : ∃ x, cs.getLast? = some x := ⟨_, List.getLast?_eq_some_getLast hne⟩
    rw [← List.singleton_append, ← List.append_assoc, List.getLast?_append,
      getLast?_literalLines, hx]
    rfl
  obtain ⟨b, hb⟩ := exists_literalLines_append indent true cs
  rw [endLine, endLine, hlast]
  split
  · rfl
  · rw [hb, List.append_assoc, List.cons_append]
    cases b <;> rfl

/-- The first line of a block is found under the indentation that the header gives, or else by its
spaces. -/
theorem exists_takeIndent?_first (hinted : Bool) (hrest : Text.Stops isBreakChar rest)
    (hhint : hinted = false → bs = [] ∧ Text.Stops separates rest)
    (h : c.rest = bs ++ (spaces (n + 2) ++ rest))
    (hbs : ∀ x ∈ bs, isPrintable x = true ∧ isBreakChar x = true) (hcolumn : c.column = 0) :
    ∃ deepest line, takeIndent? (if hinted then n + 2 else 0) (c.rest.length + 1) 0 [] c =
      some (deepest, bs, line) ∧
      (hinted = false → deepest = n + 2) ∧ line.rest = rest ∧ line.column = n + 2 ∧
      c.line ≤ line.line := by
  cases hinted with
  | true =>
    obtain ⟨deepest, line, hline, hafter, hcolumn', hle⟩ :=
      exists_takeIndent? (c.rest.length + 1) 0 [] h hbs (Nat.succ_pos (n + 1)) hcolumn hrest
        (Or.inl rfl) (by rw [h, List.length_append]; omega)
    exact ⟨deepest, line, hline, nofun, hafter, hcolumn', hle⟩
  | false =>
    obtain ⟨rfl, hstop⟩ := hhint rfl
    have hk : indentation 0 c = n + 2 := by
      rw [indentation, if_pos rfl, h, List.nil_append, takeWhile_spaces (stops_space hstop),
        length_spaces]
    have hskip : (c.skip (n + 2)).rest = rest := Cursor.rest_skip_spaces h
    refine ⟨n + 2, c.skip (n + 2), ?_, fun _ => rfl, hskip, by simp [hcolumn], Nat.le_refl _⟩
    have hline : takeIndent? 0 (c.rest.length + 1) 0 [] c =
        some (max 0 (c.column + (n + 2)), [], c.skip (n + 2)) :=
      takeIndent?_line hk hskip hrest fun _ => hstop
    rw [hcolumn, Nat.zero_add, Nat.zero_max] at hline
    exact hline

/-- A block is read by its header, its first line and its lines. -/
theorem takeBlock?_eq {increment given deepest : Nat} {empties : List Char}
    {chomp : Chomp} {b : Block} {first line after : Cursor}
    (hheader : takeHeader? (c.skip 1) = some (chomp, increment, first))
    (hgiven : (if increment = 0 then 0 else n + increment) = given)
    (hline : takeIndent? given (first.rest.length + 1) 0 [] first = some (deepest, empties, line))
    (hindent : (if given = 0 then max deepest (n + 1) else given) = indent)
    (hloop : blockLoop? false indent (line.rest.length + 1) { empties := empties } line =
      some (b, after)) :
    takeBlock? false n c = some (b.text ++ chomp.tail b.lastBreak b.empties, after) := by
  have hgiven' : (if increment = 0 then 0 else (max (n : Int) 0).toNat + increment) = given := by
    rw [← hgiven]
    split <;> omega
  have hindent' :
      (if given = 0 then max (max deepest ((n : Int) + 1).toNat) 1 else given) = indent := by
    rw [← hindent]
    split <;> omega
  rw [takeBlock?, hheader]
  simp only [Option.bind_eq_bind, Option.bind_some, hgiven', hline, hindent', hloop]
  cases chomp <;> rfl

theorem eq_or_eq_append_of_endLine (cs : List Char) :
    (endLine cs = cs ∧ cs.getLast?.any isBreakChar = true) ∨
      (endLine cs = cs ++ ['\n'] ∧ cs.getLast?.any isBreakChar = false) := by
  cases h : cs.getLast?.any isBreakChar <;> simp [endLine, h]

theorem exists_endLine_cons (x : Char) (cs : List Char) :
    ∃ later, endLine (x :: cs) = x :: later := by
  rcases eq_or_eq_append_of_endLine (x :: cs) with ⟨heq, -⟩ | ⟨heq, -⟩
  · exact ⟨cs, heq⟩
  · exact ⟨cs ++ ['\n'], heq⟩

theorem endLine_ends (cs : List Char) : (endLine cs).getLast?.any isBreakChar = true := by
  rcases eq_or_eq_append_of_endLine cs with ⟨heq, hlast⟩ | ⟨heq, -⟩
  · rwa [heq]
  · rw [heq, List.getLast?_concat]
    rfl

theorem isPrintable_of_mem_endLine (h : ∀ x ∈ cs, isPrintable x = true) {x : Char}
    (hx : x ∈ endLine cs) :
    isPrintable x = true := by
  rcases eq_or_eq_append_of_endLine cs with ⟨heq, -⟩ | ⟨heq, -⟩
  · exact h x (heq ▸ hx)
  · rcases List.mem_append.1 (heq ▸ hx) with hx | hx
    · exact h x hx
    · rw [List.mem_singleton.1 hx]
      rfl

theorem header_of_breaks (hne : cs ≠ []) (h : ∀ x ∈ cs, isBreakChar x = true) :
    isHinted cs = true ∧ chompOf cs = .keep := by
  obtain ⟨x, rest, rfl⟩ := List.exists_cons_of_ne_nil hne
  have hx : isBreakChar x = true := h x List.mem_cons_self
  refine ⟨by simp [isHinted, hx], ?_⟩
  cases rest with
  | nil => simp [chompOf, hx]
  | cons y rest => exact chompOf_of_breaks [] h

/-- Without a hint the first line begins at once, and with something that is no gap. -/
theorem of_isHinted_eq_false {lines : List Char} (hne : cs ≠ [])
    (hprintable : ∀ x ∈ cs, isPrintable x = true) (hhinted : isHinted cs = false)
    (hcs : endLine cs = bs ++ lines) (hbs : ∀ x ∈ bs, isBreakChar x = true) :
    bs = [] ∧ Text.Stops separates lines := by
  obtain ⟨x, rest, rfl⟩ := List.exists_cons_of_ne_nil hne
  obtain ⟨hspace, hbreak⟩ : x ≠ ' ' ∧ isBreakChar x = false := by simpa [isHinted] using hhinted
  have htab : x ≠ '\t' := by
    rintro rfl
    exact absurd (hprintable _ List.mem_cons_self) (by decide)
  obtain ⟨later, hlater⟩ := exists_endLine_cons x rest
  rw [hlater] at hcs
  cases bs with
  | nil =>
    refine ⟨rfl, ?_⟩
    rw [List.nil_append] at hcs
    rw [← hcs]
    refine Text.stops_cons.2 ?_
    simp [separates, isBlankChar, hspace, htab, hbreak]
  | cons y bs =>
    obtain ⟨rfl, -⟩ := List.cons.inj hcs
    rw [hbs x List.mem_cons_self] at hbreak
    cases hbreak

/-- Behind the header of its block the first line of a text begins, under the indentation that the
header gives if it gives one. -/
theorem exists_takeHeader?_literal (n : Nat) (h : c.rest = literalHeader cs ++ '\n' :: rest) :
    ∃ increment first, takeHeader? (c.skip 1) = some (chompOf cs, increment, first) ∧
      (if increment = 0 then 0 else n + increment) = (if isHinted cs then n + 2 else 0) ∧
      first.rest = rest ∧ first.column = 0 ∧ c.line < first.line := by
  have hmark : (c.skip 1).rest = (if isHinted cs then ['2'] else []) ++ chompMark (chompOf cs) ++
      '\n' :: rest :=
    Cursor.rest_skip_one (by rw [h, literalHeader_eq]; rfl)
  obtain ⟨first, hheader, hfirst, hcolumn, hline⟩ :=
    exists_takeHeader? (isHinted cs) (chompOf cs) hmark
  refine ⟨_, first, hheader, ?_, hfirst, hcolumn, hline⟩
  cases isHinted cs <;> rfl

/-- Where there are only breaks, no line is deep enough for the block, and its header keeps them. -/
theorem exists_takeBlock?_breaks (hne : bs ≠ [])
    (hbs : ∀ x ∈ bs, isPrintable x = true ∧ isBreakChar x = true)
    {c : Cursor} (h : c.rest = literalHeader bs ++ '\n' :: (bs ++ (spaces m ++ next))) (hm : m ≤ n)
    (hnext : Text.Stops separates next) :
    ∃ after, takeBlock? false n c = some (bs, after) ∧ after.rest = next ∧ after.column = m ∧
      c.line < after.line := by
  obtain ⟨increment, first, hheader, hgiven, hfirst, hcolumn, hnextLine⟩ :=
    exists_takeHeader?_literal n h
  obtain ⟨hhinted, hchomp⟩ := header_of_breaks hne fun x hx => (hbs x hx).2
  rw [hhinted, if_pos rfl] at hgiven
  have hfuel : bs.length < first.rest.length + 1 := by
    rw [hfirst, List.length_append]
    omega
  obtain ⟨deepest, line, htake, hrest, hcolumn', hline⟩ :=
    exists_takeIndent? (first.rest.length + 1) 0 [] hfirst hbs (Nat.succ_pos (n + 1)) hcolumn
      (stops_isBreakChar hnext) (Or.inr ⟨by omega, hnext⟩) hfuel
  refine ⟨line, ?_, hrest, hcolumn', Nat.lt_of_lt_of_le hnextLine hline⟩
  have hshallow : line.column ≠ n + 2 := by omega
  rw [takeBlock?_eq hheader hgiven htake rfl (blockLoop?_of_column_ne hshallow), hchomp]
  rfl

/-- Where there are lines, the first of them tells the indentation of the block if its header does
not. -/
theorem exists_takeBlock?_lines {lines : List Char} (hne : cs ≠ [])
    (hprintable : ∀ x ∈ cs, isPrintable x = true) (hcs : endLine cs = bs ++ lines)
    (hbs : ∀ x ∈ bs, isBreakChar x = true) (hlines : lines ≠ [])
    (hstop : Text.Stops isBreakChar lines) {c : Cursor}
    (h : c.rest = literalHeader cs ++
      '\n' :: (bs ++ (spaces (n + 2) ++ (literalLines (n + 2) false lines ++ (spaces m ++ next)))))
    (hm : m ≤ n) (hnext : Text.Stops separates next) :
    ∃ after, takeBlock? false n c = some (cs, after) ∧ after.rest = next ∧ after.column = m ∧
      c.line < after.line := by
  obtain ⟨increment, first, hheader, hgiven, hfirst, hcolumn, hnextLine⟩ :=
    exists_takeHeader?_literal n h
  have hall : ∀ x ∈ bs ++ lines, isPrintable x = true :=
    fun x hx => isPrintable_of_mem_endLine hprintable (hcs ▸ hx)
  have hbs' : ∀ x ∈ bs, isPrintable x = true ∧ isBreakChar x = true :=
    fun x hx => ⟨hall x (List.mem_append_left lines hx), hbs x hx⟩
  have hhint : isHinted cs = false → bs = [] ∧
      Text.Stops separates (literalLines (n + 2) false lines ++ (spaces m ++ next)) := by
    intro hhinted
    obtain ⟨hnil, hlines'⟩ := of_isHinted_eq_false hne hprintable hhinted hcs hbs
    exact ⟨hnil, stops_literalLines hlines hlines' _⟩
  obtain ⟨deepest, line, htake, hdeepest, hrest, hcolumn', hline⟩ :=
    exists_takeIndent?_first (isHinted cs) (stops_literalLines hlines hstop _)
      hhint hfirst hbs' hcolumn
  -- given or found, the indentation is the same
  have hindent : (if (if isHinted cs then n + 2 else 0) = 0 then max deepest (n + 1)
      else if isHinted cs then n + 2 else 0) = n + 2 := by
    cases hhinted : isHinted cs with
    | true => rfl
    | false => simp [hdeepest hhinted]
  have hlast : lines.getLast?.any isBreakChar = true := by
    have hends := endLine_ends cs
    obtain ⟨x, hx⟩ : ∃ x, lines.getLast? = some x := ⟨_, List.getLast?_eq_some_getLast hlines⟩
    rwa [hcs, List.getLast?_append, hx, Option.some_or, ← hx] at hends
  have hfuel : lines.length < line.rest.length + 1 := by
    have hlength : lines.length ≤ (literalLines (n + 2) false lines).length :=
      length_le_length_literalLines false lines
    rw [hrest, List.length_append]
    omega
  obtain ⟨b, after, hloop, hends, hnext', hcolumn'', hline'⟩ :=
    exists_blockLoop? (fun x hx => hall x (List.mem_append_right bs hx)) hlines hstop hlast
      (line.rest.length + 1)
      { empties := bs } hrest hcolumn' (by omega) hnext hfuel
  refine ⟨after, ?_, hnext', hcolumn'', by omega⟩
  rw [takeBlock?_eq hheader hgiven htake hindent hloop]
  have hends' : b.Ends (endLine cs) := hcs ▸ hends
  rw [hends'.tail_eq]

/-- A text of breaks needs no other at its end. -/
theorem eq_of_endLine_of_breaks (hne : cs ≠ []) (hbs : ∀ x ∈ endLine cs, isBreakChar x = true) :
    endLine cs = cs := by
  rcases eq_or_eq_append_of_endLine cs with ⟨heq, -⟩ | ⟨heq, hlast⟩
  · exact heq
  · obtain ⟨x, hx⟩ : ∃ x, cs.getLast? = some x := ⟨_, List.getLast?_eq_some_getLast hne⟩
    have hbreak : isBreakChar x = true :=
      hbs x (heq ▸ List.mem_append_left _ (List.mem_of_getLast? hx))
    rw [hx, Option.any_some, hbreak] at hlast
    cases hlast

/-- A text is read back from its literal block, up to a line that is not deeper than the block's
parent. -/
theorem exists_takeBlock? (hne : cs ≠ []) (hprintable : ∀ x ∈ cs, isPrintable x = true) {c : Cursor}
    (h : c.rest = literalHeader cs ++ '\n' ::
      (literalLines (n + 2) true (endLine cs) ++ (spaces m ++ next)))
    (hm : m ≤ n) (hnext : Text.Stops separates next) :
    ∃ after, takeBlock? false n c = some (cs, after) ∧ after.rest = next ∧ after.column = m ∧
      c.line < after.line := by
  obtain ⟨bs, lines, hcs, hbs, hstop⟩ := Text.exists_run isBreakChar (endLine cs)
  by_cases hlines : lines = []
  · rw [hlines, List.append_nil] at hcs
    obtain rfl : bs = cs := hcs.symm.trans (eq_of_endLine_of_breaks hne (hcs ▸ hbs))
    have hbreaks : literalLines (n + 2) true (bs ++ []) = bs ++ literalLines (n + 2) true [] :=
      literalLines_breaks hbs (fun _ => rfl) []
    rw [literalLines, List.append_nil] at hbreaks
    rw [hcs, hbreaks] at h
    exact exists_takeBlock?_breaks hne (fun x hx => ⟨hprintable x hx, hbs x hx⟩) h hm hnext
  · rw [hcs, literalLines_breaks hbs (fun _ => rfl), literalLines_start hlines hstop,
      List.append_assoc, List.append_assoc] at h
    exact exists_takeBlock?_lines hne hprintable hcs hbs hlines hstop h hm hnext

end Turnstile.Yaml
