import Turnstile.Proofs.Yaml.Gaps

/-!
# Runs of the lexer

Outside flow collections a lexer goes on in steps that do not depend on how it came to where it
stands: what lies ahead, the column, the open blocks and the tokens so far say what it does next.
Some steps read a token; others only take blanks and breaks away or close a block, and leave the
same tokens to come.

## Main definitions

- `Yaml.View`, `Yaml.View.Of` — what is seen of a lexer between two tokens
- `Yaml.Reads` — a lexer with one view comes to have another

## Main statements

- `Yaml.Reads.spaces`, `Yaml.Reads.line`, `Yaml.Reads.pop` — the steps without tokens
- `Yaml.Reads.token` — the steps with one
-/

namespace Turnstile.Yaml

/-- What is seen of a lexer between two tokens. -/
structure View where
  rest : List Char
  column : Nat
  tokens : List Token
  indent : Int
  outer : List Int
  keyAllowed : Bool

/-- A lexer outside flow collections has a view. A candidate that it still keeps may be given up. -/
structure View.Of (v : View) (l : Lexer) : Prop where
  rest : l.cursor.rest = v.rest
  column : l.cursor.column = v.column
  tokens : l.tokens = v.tokens
  count : l.count = v.tokens.length
  indent : l.indent = v.indent
  outer : l.outer = v.outer
  keyAllowed : l.keyAllowed = v.keyAllowed
  candidate : (l.candidate.possible && l.candidate.required) = false
  block : l.outerCandidates = []

/-- A view does not tell candidates apart that may be given up. -/
theorem View.Of.withCandidate {v : View} {l : Lexer} (h : v.Of l) {k : Candidate}
    (hk : (k.possible && k.required) = false) : v.Of { l with candidate := k } :=
  ⟨h.rest, h.column, h.tokens, h.count, h.indent, h.outer, h.keyAllowed, hk, h.block⟩

/-- A lexer with one view comes to have another, by as many tokens as it has taken characters at
most. -/
def Reads (v v' : View) : Prop :=
  ∀ l, v.Of l → ∃ n l', v'.Of l' ∧ n + v'.rest.length ≤ v.rest.length ∧
    ∀ fuel, Lexer.run? (n + fuel) l = Lexer.run? fuel l'

variable {v v' v'' : View} {l l' : Lexer} {next : List Char} {m : Nat}

theorem Reads.refl (v : View) : Reads v v :=
  fun l hl => ⟨0, l, hl, by omega, fun fuel => by rw [Nat.zero_add]⟩

theorem Reads.trans (h : Reads v v') (h' : Reads v' v'') : Reads v v'' := by
  intro l hl
  obtain ⟨n, between, hbetween, hlength, hrun⟩ := h l hl
  obtain ⟨n', after, hafter, hlength', hrun'⟩ := h' between hbetween
  refine ⟨n + n', after, hafter, by omega, fun fuel => ?_⟩
  rw [Nat.add_assoc, hrun, hrun']

/-! ### Blanks and breaks -/

theorem Cursor.atChar_eq_false {c : Cursor} {x : Char} {p : Char → Bool} (h : Text.Stops p c.rest)
    (hx : p x = true) :
    c.atChar x = false := by
  rw [Cursor.atChar, decide_eq_false_iff_not]
  intro hhead
  have hstop := h x hhead
  rw [hx] at hstop
  cases hstop

theorem Cursor.atBreak_eq_false {c : Cursor} (h : Text.Stops separates c.rest) :
    c.atBreak = false := by
  unfold Cursor.atBreak
  cases hhead : c.rest.head? with
  | none => rfl
  | some x => exact (Bool.or_eq_false_iff.1 (h x hhead)).2

namespace Lexer

/-- The place after the blanks and the comment at the cursor. -/
def afterBlanks (l : Lexer) : Cursor :=
  let c :=
    if l.cursor.column = 0 && l.cursor.atChar byteOrderMark then l.cursor.skip 1 else l.cursor
  (c.skipWhile fun x => x = ' ' || ((l.inFlow || !l.keyAllowed) && x = '\t')).skipComment

theorem toNext_succ (l : Lexer) (fuel : Nat) :
    l.toNext (fuel + 1) =
      if l.afterBlanks.atBreak then
        toNext fuel { l with
          cursor := l.afterBlanks.takeBreak.2, keyAllowed := l.keyAllowed || !l.inFlow }
      else { l with cursor := l.afterBlanks } :=
  rfl

theorem afterBlanks_eq {k : Nat} (h : l.cursor.rest = spaces k ++ next)
    (hnext : Text.Stops isPassed next) :
    l.afterBlanks = l.cursor.skip k := by
  have hmark : (l.cursor.column = 0 && l.cursor.atChar byteOrderMark) = false := by
    have hfront : l.cursor.atChar byteOrderMark = false := by
      cases k with
      | zero => exact Cursor.atChar_eq_false (by rw [h]; exact hnext) rfl
      | succ k =>
        rw [Cursor.atChar, h, spaces_succ]
        rfl
    rw [hfront, Bool.and_false]
  have hrun : (l.cursor.rest.takeWhile fun x => x = ' ' ||
      ((l.inFlow || !l.keyAllowed) && x = '\t')) = spaces k := by
    rw [h]
    refine Text.takeWhile_run (fun x hx => by rw [eq_space_of_mem_spaces hx]; rfl) fun x hx => ?_
    have hstop := hnext x hx
    simp only [isPassed, isBlankChar, Bool.or_eq_false_iff, decide_eq_false_iff_not] at hstop
    simp [hstop]
  have hskip : (l.cursor.skip k).rest = next := Cursor.rest_skip_spaces h
  have hcomment : (l.cursor.skip k).atChar '#' = false := Cursor.atChar_eq_false (hskip ▸ hnext) rfl
  unfold afterBlanks
  rw [hmark]
  simp only [Bool.false_eq_true, if_false, Cursor.skipWhile, hrun, length_spaces,
    Cursor.skipComment, hcomment]

/-- Spaces before a token are taken away. -/
theorem toNext_spaces {k : Nat} (h : l.cursor.rest = spaces k ++ next)
    (hnext : Text.Stops interrupts next) (fuel : Nat) :
    l.toNext (fuel + 1) = { l with cursor := l.cursor.skip k } := by
  have hskip : (l.cursor.skip k).rest = next := Cursor.rest_skip_spaces h
  have hbreak : (l.cursor.skip k).atBreak = false :=
    Cursor.atBreak_eq_false (hskip ▸ stops_separates hnext)
  rw [toNext_succ, afterBlanks_eq h (stops_isPassed hnext), hbreak]
  rfl

theorem toNext_of_stops (h : Text.Stops interrupts l.cursor.rest) (fuel : Nat) :
    l.toNext (fuel + 1) = l :=
  toNext_spaces (k := 0) rfl h fuel

/-- A break and the indentation of the next line are taken away, and a key may begin there. -/
theorem toNext_line (h : l.cursor.rest = '\n' :: (spaces m ++ next))
    (hnext : Text.Stops interrupts next) (hblock : l.outerCandidates = []) (fuel : Nat) :
    ∃ after, l.toNext (fuel + 2) = { l with cursor := after, keyAllowed := true } ∧
      after.rest = next ∧
      after.column = m := by
  have hblanks : l.afterBlanks = l.cursor := afterBlanks_eq (k := 0) h (Text.stops_cons.2 rfl)
  have hbreak : l.cursor.atBreak = true := by rw [Cursor.atBreak, h]; rfl
  have htake := Cursor.takeBreak_cons h rfl rfl
  have hkey : (l.keyAllowed || !l.inFlow) = true := by simp [inFlow, hblock]
  refine ⟨Cursor.skip ⟨spaces m ++ next, l.cursor.index + 1, l.cursor.line + 1, 0⟩ m, ?_, ?_, ?_⟩
  · rw [toNext_succ, hblanks, hbreak, if_pos rfl, htake, hkey]
    exact toNext_spaces rfl hnext fuel
  · exact Cursor.rest_skip_spaces rfl
  · exact Nat.zero_add m

end Lexer

/-! ### Steps without tokens -/

namespace Lexer

theorem run?_congr (h : l.toNext (l.cursor.rest.length + 1) = l'.toNext (l'.cursor.rest.length + 1))
    (fuel : Nat) :
    run? fuel l = run? fuel l' := by
  cases fuel with
  | zero => rfl
  | succ fuel => rw [run?, run?, h]

end Lexer

/-- Spaces before a token are taken away. -/
theorem Reads.spaces {k : Nat} (hrest : v.rest = Yaml.spaces k ++ next)
    (hnext : Text.Stops interrupts next) :
    Reads v { v with rest := next, column := v.column + k } := by
  intro l hl
  have hspaces := hl.rest.trans hrest
  have hskip : (l.cursor.skip k).rest = next := Cursor.rest_skip_spaces hspaces
  refine ⟨0, { l with cursor := l.cursor.skip k },
    ⟨hskip, ?_, hl.tokens, hl.count, hl.indent, hl.outer, hl.keyAllowed, hl.candidate, hl.block⟩,
    ?_, fun fuel => ?_⟩
  · rw [Cursor.column_skip, hl.column]
  · simp [hrest]
  · rw [Nat.zero_add]
    refine Lexer.run?_congr ?_ fuel
    rw [Lexer.toNext_spaces hspaces hnext]
    exact (Lexer.toNext_of_stops (hskip ▸ hnext) _).symm

/-- A break and the indentation of the next line are taken away. -/
theorem Reads.line (hrest : v.rest = '\n' :: (Yaml.spaces m ++ next))
    (hnext : Text.Stops interrupts next) :
    Reads v { v with rest := next, column := m, keyAllowed := true } := by
  intro l hl
  have hline := hl.rest.trans hrest
  obtain ⟨after, hafter, hrest', hcolumn⟩ :=
    Lexer.toNext_line hline hnext hl.block (Yaml.spaces m ++ next).length
  refine ⟨0, { l with cursor := after, keyAllowed := true },
    ⟨hrest', hcolumn, hl.tokens, hl.count, hl.indent, hl.outer, rfl, hl.candidate, hl.block⟩, ?_,
    fun fuel => ?_⟩
  · simp only [hrest, List.length_cons, List.length_append]
    omega
  · rw [Nat.zero_add]
    refine Lexer.run?_congr ?_ fuel
    have hlength : l.cursor.rest.length + 1 = (Yaml.spaces m ++ next).length + 2 := by
      rw [hline]
      rfl
    rw [hlength, hafter]
    exact (Lexer.toNext_of_stops (hrest' ▸ hnext) _).symm

/-! ### Steps with a token -/

namespace Lexer

/-- A candidate that may be given up is kept, or given up when it lies too far back. -/
theorem exists_refresh? {k : Candidate} (h : (k.possible && k.required) = false) (c : Cursor) :
    ∃ k' : Candidate, refresh? c k = some k' ∧ (k'.possible && k'.required) = false := by
  unfold refresh?
  split
  · next hstale =>
    have hpossible : k.possible = true := (Bool.and_eq_true_iff.1 hstale).1
    have hrequired : k.required = false := by rwa [hpossible, Bool.true_and] at h
    exact ⟨{ k with possible := false }, by rw [hrequired]; rfl, rfl⟩
  · exact ⟨k, rfl, h⟩

theorem dropStale?_eq {k : Candidate} (hrefresh : refresh? l.cursor l.candidate = some k)
    (hblock : l.outerCandidates = []) : l.dropStale? = some { l with candidate := k } := by
  obtain ⟨cursor, tokens, count, indent, outer, keyAllowed, candidate, outerCandidates⟩ := l
  subst hblock
  simp only at hrefresh
  simp [dropStale?, hrefresh]

theorem closeTo_of_le {column : Int} (h : l.indent ≤ column) : l.closeTo column = l := by
  unfold closeTo
  split
  · rfl
  · cases l.outer with
    | nil => rfl
    | cons i outer => rw [closeBlocks, if_neg (Int.not_lt.2 h)]

/-- A lexer that has closed its innermost block. -/
def pop (l : Lexer) (i : Int) (outer : List Int) : Lexer :=
  { l.push .blockEnd with indent := i, outer := outer }

theorem closeTo_of_lt {column i : Int} {outer : List Int} (h : column < l.indent)
    (houter : l.outer = i :: outer) (hblock : l.outerCandidates = []) :
    l.closeTo column = (l.pop i outer).closeTo column := by
  have hflow : l.inFlow = false := by simp [inFlow, hblock]
  have hflow' : (l.pop i outer).inFlow = false := hflow
  rw [closeTo, closeTo, hflow, hflow', houter]
  simp only [Bool.false_eq_true, if_false]
  rw [closeBlocks, if_pos h]
  rfl

/-- Going on at the front of a token: blocks are closed, and then the token is read. -/
def resume? (fuel : Nat) (l : Lexer) : Option Lexer :=
  let l := l.closeTo l.cursor.column
  if l.cursor.atEnd then l.finish? else l.token?.bind (run? fuel)

theorem run?_succ {k : Candidate} (hnext : Text.Stops interrupts l.cursor.rest)
    (hblock : l.outerCandidates = []) (hrefresh : refresh? l.cursor l.candidate = some k)
    (fuel : Nat) :
    run? (fuel + 1) l = resume? fuel { l with candidate := k } := by
  rw [run?, toNext_of_stops hnext, dropStale?_eq hrefresh hblock]
  rfl

theorem resume?_pop {i : Int} {outer : List Int} (h : l.cursor.column < l.indent)
    (houter : l.outer = i :: outer) (hblock : l.outerCandidates = []) (fuel : Nat) :
    resume? fuel l = resume? fuel (l.pop i outer) := by
  rw [resume?, closeTo_of_lt h houter hblock]
  rfl

theorem resume?_token (hne : l.cursor.rest ≠ []) (hindent : l.indent ≤ l.cursor.column)
    (fuel : Nat) :
    resume? fuel l = l.token?.bind (run? fuel) := by
  have hend : l.cursor.atEnd = false := List.isEmpty_eq_false_iff.2 hne
  unfold resume?
  rw [closeTo_of_le hindent]
  simp only [hend, Bool.false_eq_true, if_false]

end Lexer

/-- A lexer at the front of a token reads it, with a candidate that it may have given up. -/
theorem View.Of.exists_run? (h : v.Of l) (hnext : Text.Stops interrupts v.rest) (hne : v.rest ≠ [])
    (hindent : v.indent ≤ v.column) :
    ∃ l', v.Of l' ∧ ∀ fuel, Lexer.run? (fuel + 1) l = l'.token?.bind (Lexer.run? fuel) := by
  obtain ⟨k, hrefresh, hk⟩ := Lexer.exists_refresh? h.candidate l.cursor
  refine ⟨{ l with candidate := k }, h.withCandidate hk, fun fuel => ?_⟩
  rw [Lexer.run?_succ (h.rest ▸ hnext) h.block hrefresh]
  refine Lexer.resume?_token (l := { l with candidate := k }) (h.rest ▸ hne) ?_ fuel
  rw [h.indent, h.column]
  exact hindent

/-- A step by one token, and what follows it. -/
theorem Reads.token_trans (hnext : Text.Stops interrupts v.rest) (hne : v.rest ≠ [])
    (hindent : v.indent ≤ v.column) (h : ∀ l, v.Of l → ∃ l' w, l.token? = some l' ∧ View.Of w l' ∧
      w.rest.length < v.rest.length ∧ Reads w v') :
    Reads v v' := by
  intro l hl
  obtain ⟨front, hfront, hstep⟩ := hl.exists_run? hnext hne hindent
  obtain ⟨between, w, htoken, hbetween, hlength, hreads⟩ := h front hfront
  obtain ⟨n, l', hl', hlength', hrun⟩ := hreads between hbetween
  refine ⟨n + 1, l', hl', by omega, fun fuel => ?_⟩
  rw [Nat.add_right_comm, hstep, htoken]
  exact hrun fuel

/-- A step by one token. -/
theorem Reads.token (hnext : Text.Stops interrupts v.rest) (hne : v.rest ≠ [])
    (hindent : v.indent ≤ v.column) (hlength : v'.rest.length < v.rest.length)
    (h : ∀ l, v.Of l → ∃ l', l.token? = some l' ∧ v'.Of l') : Reads v v' :=
  .token_trans hnext hne hindent fun l hl =>
    have ⟨l', htoken, hl'⟩ := h l hl
    ⟨l', v', htoken, hl', hlength, .refl v'⟩

/-- A block that is deeper than the column is closed. -/
theorem Reads.pop {i : Int} {outer : List Int} (hnext : Text.Stops interrupts v.rest)
    (hcolumn : v.column < v.indent) (houter : v.outer = i :: outer) :
    Reads v { v with tokens := .blockEnd :: v.tokens, indent := i, outer := outer } := by
  intro l hl
  obtain ⟨k, hrefresh, hk⟩ := Lexer.exists_refresh? hl.candidate l.cursor
  have hstops : Text.Stops interrupts l.cursor.rest := hl.rest ▸ hnext
  have hlow : (l.cursor.column : Int) < l.indent := by rw [hl.indent, hl.column]; exact hcolumn
  have htokens : (l.pop i outer).tokens = .blockEnd :: v.tokens := congrArg _ hl.tokens
  have hcount : (l.pop i outer).count = v.tokens.length + 1 := congrArg _ hl.count
  -- closing takes none of the fuel, so the run goes on as from the lexer that has closed the block
  refine ⟨0, l.pop i outer,
    ⟨hl.rest, hl.column, htokens, hcount, rfl, rfl, hl.keyAllowed, hl.candidate, hl.block⟩, by simp,
    fun fuel => ?_⟩
  rw [Nat.zero_add]
  cases fuel with
  | zero => rfl
  | succ fuel =>
    rw [Lexer.run?_succ hstops hl.block hrefresh,
      Lexer.run?_succ (l := l.pop i outer) hstops hl.block hrefresh]
    exact Lexer.resume?_pop (l := { l with candidate := k }) hlow
      (hl.outer.trans houter) hl.block fuel

end Turnstile.Yaml
