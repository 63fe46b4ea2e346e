import Turnstile.Proofs.Yaml.Lexing
import Turnstile.Proofs.Yaml.Literal
import Turnstile.Proofs.Yaml.Quoted

/-!
# Tokens that are printed

Each thing that is printed outside flow collections is read as its token: the dash of an item, a key
with its colon, a scalar with the rest of its line, and an empty collection.

## Main definitions

- `Yaml.View.opened` — a view after a block that begins at its column has been opened

## Main statements

- `Yaml.Reads.dash`, `Yaml.Reads.key` — marks of items and entries
- `Yaml.Reads.scalar`, `Yaml.Reads.emptyList`, `Yaml.Reads.emptyMap` — things without parts
-/

namespace Turnstile.Yaml

variable {v : View} {l : Lexer} {cs rest next : List Char} {m n : Nat}

/-! ### Opening a block -/

/-- A block that begins at the column is opened if it is deeper than the open ones. -/
def View.opened (v : View) (start : Token) : View :=
  if v.indent < v.column then
    { v with tokens := start :: v.tokens, indent := v.column, outer := v.indent :: v.outer }
  else v

@[simp] theorem View.rest_opened (v : View) (start : Token) : (v.opened start).rest = v.rest := by
  unfold View.opened
  split <;> rfl

@[simp] theorem View.column_opened (v : View) (start : Token) :
    (v.opened start).column = v.column := by
  unfold View.opened
  split <;> rfl

theorem View.opened_of_le {start : Token} (h : (v.column : Int) ≤ v.indent) : v.opened start = v :=
  if_neg (Int.not_lt.2 h)

theorem View.opened_of_lt {start : Token} (h : v.indent < v.column) : v.opened start =
    { v with tokens := start :: v.tokens, indent := v.column, outer := v.indent :: v.outer } :=
  if_pos h

theorem View.indent_opened {start : Token} (h : v.indent ≤ v.column) :
    (v.opened start).indent = v.column := by
  unfold View.opened
  split
  · rfl
  · omega

namespace View.Of

theorem inFlow_eq (h : v.Of l) : l.inFlow = false := by simp [Lexer.inFlow, h.block]

theorem openBlock (h : v.Of l) (start : Token) :
    (v.opened start).Of (l.openBlock l.cursor.column l.count start) := by
  rw [Lexer.openBlock, h.inFlow_eq, Bool.false_or, h.column, h.indent]
  by_cases hdeep : v.indent < v.column
  · rw [opened_of_lt hdeep, if_neg (by simpa using hdeep)]
    refine ⟨h.rest, h.column, ?_, ?_, rfl, congrArg _ h.outer, h.keyAllowed, h.candidate, h.block⟩
    · simp [Lexer.insert, h.tokens]
    · simp [Lexer.insert, h.count]
  · rw [opened_of_le (Int.not_lt.1 hdeep), if_pos (by simpa using hdeep)]
    exact h

theorem exists_dropCandidate? (h : v.Of l) :
    ∃ l', l.dropCandidate? = some l' ∧ v.Of l' ∧ l'.cursor = l.cursor := by
  refine ⟨_, ?_, h.withCandidate (k := { l.candidate with possible := false }) rfl, rfl⟩
  rw [Lexer.dropCandidate?, h.candidate]
  rfl

/-- What is deeper than its block may turn out to be a key, but does not have to. -/
theorem exists_saveCandidate? (h : v.Of l) (hdeep : v.indent < v.column) :
    ∃ l', l.saveCandidate? = some l' ∧ v.Of l' ∧ l'.cursor = l.cursor := by
  unfold Lexer.saveCandidate?
  split
  · exact ⟨l, rfl, h, rfl⟩
  · obtain ⟨l', hdrop, hl', hcursor⟩ := h.exists_dropCandidate?
    have hrequired : (true && (!l'.inFlow && l'.indent = l'.cursor.column)) = false := by
      rw [hl'.indent, hl'.column, decide_eq_false (Int.ne_of_lt hdeep), Bool.and_false,
        Bool.and_false]
    refine ⟨_, ?_, hl'.withCandidate
      (k := ⟨true, _, l'.count, l'.cursor.index, l'.cursor.line, l'.cursor.column⟩)
      hrequired, hcursor⟩
    rw [hdrop]
    rfl

/-- A token is added, and the text goes on behind it. -/
theorem push (h : v.Of l) {c : Cursor} (hrest : c.rest = rest) (t : Token) (allowed : Bool) :
    View.Of { v with
      rest := rest, column := c.column, tokens := t :: v.tokens, keyAllowed := allowed }
      (({ l with cursor := c }.push t).allowKey allowed) :=
  ⟨hrest, rfl, congrArg _ h.tokens, congrArg (· + 1) h.count, h.indent, h.outer, rfl,
    h.candidate, h.block⟩

end View.Of

/-! ### Items -/

theorem token?_dash (h : l.cursor.rest = '-' :: ' ' :: rest) : l.token? = l.blockEntry? := by
  simp [Lexer.token?, h, Cursor.atMark, Cursor.wordEnds, isBlankChar]

/-- The dash of an item opens its sequence if need be. -/
theorem Reads.dash (hrest : v.rest = '-' :: ' ' :: rest) (hindent : v.indent ≤ v.column)
    (hkey : v.keyAllowed = true) :
    Reads v { v.opened .blockSequenceStart with
      rest := ' ' :: rest, column := v.column + 1,
      tokens := .blockEntry :: (v.opened .blockSequenceStart).tokens, keyAllowed := true } := by
  refine .token (by rw [hrest]; exact Text.stops_cons.2 rfl) (by rw [hrest]; nofun) hindent
    (by simp [hrest])
    fun l hl => ?_
  obtain ⟨l', hdrop, hl', hcursor⟩ := (hl.openBlock .blockSequenceStart).exists_dropCandidate?
  have hskip : (l'.cursor.skip 1).rest = ' ' :: rest := by
    refine Cursor.rest_skip_one (x := '-') ?_
    rw [hl'.rest, View.rest_opened, hrest]
  have hcolumn : (l'.cursor.skip 1).column = v.column + 1 := by
    rw [Cursor.column_skip, hl'.column, View.column_opened]
  refine ⟨_, ?_, hcolumn ▸ hl'.push hskip .blockEntry true⟩
  rw [token?_dash (hl.rest.trans hrest), Lexer.blockEntry?, hl.inFlow_eq, hl.keyAllowed, hkey]
  simp only [hdrop]
  rfl

/-! ### Plain scalars -/

/-- A plain scalar does not begin with the mark of anything else. -/
theorem PlainText.of_cons {x : Char} {xs : List Char} (h : PlainText (x :: xs)) (tail : List Char) :
    (∀ y ∈ "#,[]\x7b\x7d&*!|>'\"%@`".toList, x ≠ y) ∧
      ∀ y ∈ "?:-".toList, (x = y && Cursor.wordEnds (xs ++ tail)) = false := by
  have hmark := h.unmistakable
  simp only [hasMark, Bool.or_eq_false_iff] at hmark
  obtain ⟨⟨⟨-, hfirst⟩, hends⟩, -⟩ := hmark
  refine ⟨?_, fun y hy => ?_⟩
  · rintro _ hy rfl
    rw [List.contains_iff_mem.2 hy] at hfirst
    cases hfirst
  · by_cases hxy : x = y
    · subst hxy
      rw [List.contains_iff_mem.2 hy, Bool.true_and] at hends
      rw [wordEnds_append hends, Bool.and_false]
    · rw [decide_eq_false hxy, Bool.false_and]

theorem PlainText.beginsPlain_cons {x : Char} {xs : List Char} (h : PlainText (x :: xs))
    (tail : List Char) :
    Lexer.beginsPlain false (x :: (xs ++ tail)) = true := by
  obtain ⟨hne, hends⟩ := h.of_cons tail
  have hsep : (isBlankChar x || isBreakChar x) = false := Text.stops_cons.1 (h.stops [])
  simp only [Lexer.beginsPlain, hsep, Bool.false_eq_true, if_false]
  by_cases hindicator : Lexer.isIndicator x = true
  · have htable : ("-?:,[]\x7b\x7d#&*!|>'\"%@`".toList.all fun y =>
        y ∈ "?:-".toList || y ∈ "#,[]\x7b\x7d&*!|>'\"%@`".toList) = true := by decide
    have hx : x ∈ "?:-".toList := by
      have hparts := List.all_eq_true.1 htable x (List.contains_iff_mem.1 hindicator)
      rw [Bool.or_eq_true, decide_eq_true_eq, decide_eq_true_eq] at hparts
      exact hparts.resolve_right fun hx => hne x hx rfl
    have hends' : Cursor.wordEnds (xs ++ tail) = false := by
      have hfree := hends x hx
      rwa [decide_eq_true rfl, Bool.true_and] at hfree
    have hblank : (xs ++ tail).head?.any isBlankChar = false := by
      cases hhead : (xs ++ tail).head? with
      | none => rfl
      | some y =>
        rw [Cursor.wordEnds, hhead] at hends'
        exact (Bool.or_eq_false_iff.1 hends').1
    have hx' : x = '?' ∨ x = ':' ∨ x = '-' := by simpa using hx
    rcases hx' with rfl | rfl | rfl <;> simp [hindicator, hends', hblank, -List.head?_append]
  · simp [hindicator]

/-- A plain scalar begins a token. -/
theorem PlainText.stops_interrupts (h : PlainText cs) (tail : List Char) :
    Text.Stops interrupts (cs ++ tail) := by
  obtain ⟨x, xs, rfl⟩ := List.exists_cons_of_ne_nil h.ne_nil
  have hsep : separates x = false := Text.stops_cons.1 (h.stops [])
  obtain ⟨hblank, hbreak⟩ := Bool.or_eq_false_iff.1 hsep
  have hhash : x ≠ '#' := (h.of_cons []).1 '#' (by decide)
  have hmark : x ≠ byteOrderMark := by
    rintro rfl
    exact absurd (h.printable _ List.mem_cons_self) (by decide)
  refine Text.stops_cons.2 ?_
  simp [interrupts, isPassed, hblank, hbreak, hhash, hmark]

/-- A plain scalar is taken for nothing else. -/
theorem PlainText.token?_eq {tail : List Char} (h : PlainText cs)
    (hrest : l.cursor.rest = cs ++ tail) (hdash : tail.head? ≠ some '-')
    (hpoint : tail.head? ≠ some '.') (hflow : l.inFlow = false) :
    l.token? = l.plain? := by
  have hmarker := h.atMarker_eq_false hrest hdash hpoint
  simp only [Cursor.atMarker, Bool.or_eq_false_iff] at hmarker
  obtain ⟨x, xs, rfl⟩ := List.exists_cons_of_ne_nil h.ne_nil
  obtain ⟨hne, hends⟩ := h.of_cons tail
  have hbegins := h.beginsPlain_cons tail
  have hitem := hends '-' (by decide)
  have hkey := hends '?' (by decide)
  have hvalue := hends ':' (by decide)
  unfold Lexer.token?
  simp only [hrest, List.cons_append, hflow, Bool.false_or, hitem, hkey, hvalue]
  simp at hne
  simp [hmarker, hne, hbegins]

/-! ### Scalars -/

/-- A plain scalar is read with the rest of its line. -/
theorem Reads.plain {s : String} (h : PlainText s.toList)
    (hrest : v.rest = s.toList ++ '\n' :: (Yaml.spaces m ++ next))
    (hnext : Text.Stops separates next) (hindent : v.indent < v.column) (hm : m ≤ v.indent) :
    Reads v { v with
      rest := next, column := m, tokens := .scalar .plain s :: v.tokens, keyAllowed := true } := by
  have hlength : next.length < v.rest.length := by
    rw [hrest, List.length_append, List.length_cons, List.length_append]
    omega
  refine .token (hrest ▸ h.stops_interrupts _) (by rw [hrest]; simp) (Int.le_of_lt hindent) hlength
    fun l hl => ?_
  obtain ⟨l', hsave, hl', hcursor⟩ := hl.exists_saveCandidate? hindent
  have hrest' : l'.cursor.rest = s.toList ++ '\n' :: (Yaml.spaces m ++ next) := hl'.rest.trans hrest
  have hdeep : l'.indent ≤ l'.cursor.column := by
    rw [hl'.indent, hl'.column]
    exact Int.le_of_lt hindent
  obtain ⟨after, htake, hafter, hcolumn, -⟩ :=
    h.exists_takePlain?_line hrest' hnext hdeep (by rw [hl'.indent]; exact hm)
  refine ⟨_, ?_, hcolumn ▸ hl'.push hafter (.scalar .plain s) true⟩
  rw [h.token?_eq (hl.rest.trans hrest) nofun nofun hl.inFlow_eq, Lexer.plain?, hsave]
  simp [hl'.inFlow_eq, htake]

theorem token?_quoted {single : Bool} (h : l.cursor.rest = quoteMark single :: rest) :
    l.token? = l.quoted? single := by
  cases single <;> simp [Lexer.token?, h, quoteMark, Cursor.atMark]

/-- A quoted scalar is read, and then the rest of its line. -/
theorem Reads.quoted {single : Bool} {written : List Char} {s : String}
    (h : Quoted single written s.toList)
    (hrest : v.rest = quoteMark single ::
      (written ++ quoteMark single :: '\n' :: (Yaml.spaces m ++ next)))
    (hnext : Text.Stops interrupts next) (hindent : v.indent < v.column) :
    Reads v { v with
      rest := next, column := m, keyAllowed := true,
      tokens := .scalar (if single then .singleQuoted else .doubleQuoted) s :: v.tokens } := by
  have hstops : Text.Stops interrupts v.rest := by
    rw [hrest]
    cases single <;> exact Text.stops_cons.2 rfl
  refine .token_trans hstops (by rw [hrest]; nofun) (Int.le_of_lt hindent) fun l hl => ?_
  obtain ⟨l', hsave, hl', hcursor⟩ := hl.exists_saveCandidate? hindent
  have hend : ('\n' :: (Yaml.spaces m ++ next)).head? ≠ some '\'' := nofun
  obtain ⟨after, htake, hafter, -⟩ := h.exists_takeQuoted? hend (hl'.rest.trans hrest)
  refine ⟨_, _, ?_,
    hl'.push hafter (.scalar (if single then .singleQuoted else .doubleQuoted) s) false, ?_,
    .line rfl hnext⟩
  · rw [token?_quoted (hl.rest.trans hrest), Lexer.quoted?, hsave]
    simp [htake]
  · simp only [hrest, List.length_cons, List.length_append]
    omega

theorem token?_literal (hflow : l.inFlow = false) (h : l.cursor.rest = '|' :: rest) :
    l.token? = l.block? false := by
  simp [Lexer.token?, h, Cursor.atMark, hflow]

/-- A literal block is read with all its lines. -/
theorem Reads.literal {s : String} (hne : s.toList ≠ [])
    (hprintable : ∀ x ∈ s.toList, isPrintable x = true)
    (hrest : v.rest = literalHeader s.toList ++
      '\n' :: (literalLines (n + 2) true (endLine s.toList) ++ (Yaml.spaces m ++ next)))
    (hnext : Text.Stops separates next) (hindent : v.indent = n) (hcolumn : n < v.column)
    (hm : m ≤ n) :
    Reads v { v with
      rest := next, column := m, tokens := .scalar .literal s :: v.tokens,
      keyAllowed := true } := by
  have hrest' := hrest
  rw [literalHeader_eq] at hrest'
  have hlength : next.length < v.rest.length := by
    rw [hrest]
    simp only [List.length_append, List.length_cons]
    omega
  refine .token (by rw [hrest']; exact Text.stops_cons.2 rfl) (by rw [hrest']; nofun)
    (by omega) hlength fun l hl => ?_
  obtain ⟨l', hdrop, hl', hcursor⟩ := hl.exists_dropCandidate?
  obtain ⟨after, htake, hafter, hcolumn', -⟩ :=
    exists_takeBlock? hne hprintable (hl'.rest.trans hrest) hm hnext
  refine ⟨_, ?_, hcolumn' ▸ hl'.push hafter (.scalar .literal s) true⟩
  rw [token?_literal hl.inFlow_eq (hl.rest.trans hrest'), Lexer.block?, hdrop]
  simp [hl'.indent, hindent, htake]

/-! ### Empty collections -/

/-- A lexer within one flow collection has a view. -/
structure View.Within (v : View) (l : Lexer) : Prop where
  rest : l.cursor.rest = v.rest
  column : l.cursor.column = v.column
  tokens : l.tokens = v.tokens
  count : l.count = v.tokens.length
  indent : l.indent = v.indent
  outer : l.outer = v.outer
  candidate : l.candidate = {}
  outerCandidate : ∃ k : Candidate, l.outerCandidates = [k] ∧ (k.possible && k.required) = false

theorem View.Of.exists_openFlow? {x : Char} (h : v.Of l) (hrest : v.rest = x :: rest)
    (hindent : v.indent < v.column) (start : Token) :
    ∃ l', l.openFlow? start = some l' ∧
      View.Within { v with
        rest := rest, column := v.column + 1, tokens := start :: v.tokens } l' := by
  obtain ⟨l', hsave, hl', -⟩ := h.exists_saveCandidate? hindent
  let inner : Lexer :=
    { l' with outerCandidates := l'.candidate :: l'.outerCandidates, candidate := {} }
  refine ⟨((inner.skip 1).push start).allowKey true, ?_,
    Cursor.rest_skip_one (hl'.rest.trans hrest), congrArg (· + 1) hl'.column, congrArg _ hl'.tokens,
    congrArg (· + 1) hl'.count, hl'.indent, hl'.outer, rfl, l'.candidate,
    congrArg (l'.candidate :: ·) hl'.block, hl'.candidate⟩
  rw [Lexer.openFlow?, hsave]
  rfl

theorem View.Within.exists_closeFlow? {x : Char} (h : v.Within l) (hrest : v.rest = x :: rest)
    (stop : Token) :
    ∃ l', l.closeFlow? stop = some l' ∧ View.Of { v with
      rest := rest, column := v.column + 1, tokens := stop :: v.tokens,
      keyAllowed := false } l' := by
  obtain ⟨k, houter, hk⟩ := h.outerCandidate
  obtain ⟨cursor, tokens, count, indent, outer, keyAllowed, candidate, outerCandidates⟩ := l
  obtain rfl : candidate = {} := h.candidate
  obtain rfl : outerCandidates = [k] := houter
  exact ⟨_, rfl, Cursor.rest_skip_one (h.rest.trans hrest), congrArg (· + 1) h.column,
    congrArg _ h.tokens, congrArg (· + 1) h.count, h.indent, h.outer, rfl, hk, rfl⟩

/-- Within a flow collection nothing is closed before a token. -/
theorem View.Within.exists_run? (h : v.Within l) (hnext : Text.Stops interrupts v.rest)
    (hne : v.rest ≠ []) :
    ∃ l', v.Within l' ∧ ∀ fuel, Lexer.run? (fuel + 1) l = l'.token?.bind (Lexer.run? fuel) := by
  obtain ⟨k, houter, hk⟩ := h.outerCandidate
  obtain ⟨k', hrefresh, hk'⟩ := Lexer.exists_refresh? hk l.cursor
  have hend : l.cursor.atEnd = false := by
    rw [Cursor.atEnd, h.rest]
    exact List.isEmpty_eq_false_iff.2 hne
  have hstale : l.dropStale? = some { l with outerCandidates := [k'] } := by
    have hnone : Lexer.refresh? l.cursor l.candidate = some l.candidate := by rw [h.candidate]; rfl
    simp [Lexer.dropStale?, hnone, houter, hrefresh]
  refine ⟨{ l with outerCandidates := [k'] },
    ⟨h.rest, h.column, h.tokens, h.count, h.indent, h.outer, h.candidate, k', rfl, hk'⟩,
    fun fuel => ?_⟩
  rw [Lexer.run?, Lexer.toNext_of_stops (h.rest ▸ hnext), hstale]
  simp [Lexer.closeTo, Lexer.inFlow, hend]

/-- An empty flow collection is read, and then the rest of its line. -/
theorem Reads.emptyFlow {opener closer : Char} {start stop : Token}
    (hopen : ∀ {l : Lexer} {rest : List Char}, l.cursor.rest = opener :: rest →
      l.token? = l.openFlow? start)
    (hclose : ∀ {l : Lexer} {rest : List Char}, l.cursor.rest = closer :: rest →
      l.token? = l.closeFlow? stop)
    (hopener : interrupts opener = false) (hcloser : interrupts closer = false)
    (hrest : v.rest = opener :: closer :: '\n' :: (Yaml.spaces m ++ next))
    (hnext : Text.Stops interrupts next) (hindent : v.indent < v.column) :
    Reads v { v with
      rest := next, column := m, tokens := stop :: start :: v.tokens, keyAllowed := true } := by
  intro l hl
  obtain ⟨front, hfront, hrun⟩ :=
    hl.exists_run? (by rw [hrest]; exact Text.stops_cons.2 hopener) (by rw [hrest]; nofun)
      (Int.le_of_lt hindent)
  -- between the two marks the lexer is within a flow collection, where it has no view
  obtain ⟨inner, htoken, hinner⟩ := hfront.exists_openFlow? hrest hindent start
  obtain ⟨inner', hinner', hrun'⟩ := hinner.exists_run? (Text.stops_cons.2 hcloser) nofun
  obtain ⟨closed, htoken', hclosed⟩ := hinner'.exists_closeFlow? rfl stop
  obtain ⟨n, after, hafter, hlength, hrun''⟩ := Reads.line rfl hnext closed hclosed
  refine ⟨n + 2, after, hafter, ?_, fun fuel => ?_⟩
  · simp only [hrest, List.length_cons] at hlength ⊢
    omega
  · have hfuel : n + 2 + fuel = (n + fuel) + 1 + 1 := by omega
    rw [hfuel, hrun, hopen (hfront.rest.trans hrest), htoken, Option.bind_some, hrun',
      hclose hinner'.rest, htoken', Option.bind_some, hrun'']

theorem token?_openList (h : l.cursor.rest = '[' :: rest) :
    l.token? = l.openFlow? .flowSequenceStart := by
  simp [Lexer.token?, h, Cursor.atMark]

theorem token?_closeList (h : l.cursor.rest = ']' :: rest) :
    l.token? = l.closeFlow? .flowSequenceEnd := by
  simp [Lexer.token?, h, Cursor.atMark]

theorem token?_openMap (h : l.cursor.rest = '\x7b' :: rest) :
    l.token? = l.openFlow? .flowMappingStart := by
  simp [Lexer.token?, h, Cursor.atMark]

theorem token?_closeMap (h : l.cursor.rest = '\x7d' :: rest) :
    l.token? = l.closeFlow? .flowMappingEnd := by
  simp [Lexer.token?, h, Cursor.atMark]

/-! ### Keys -/

/-- A lexer stands at the colon after a scalar that may be a key, and had a view before that
scalar. -/
structure View.Keyed (v : View) (name : String) (rest : List Char) (l : Lexer) : Prop where
  rest : l.cursor.rest = ':' :: rest
  column : l.cursor.column = v.column + name.toList.length
  tokens : l.tokens = .scalar .plain name :: v.tokens
  count : l.count = v.tokens.length + 1
  indent : l.indent = v.indent
  outer : l.outer = v.outer
  possible : l.candidate.possible = true
  before : l.candidate.before = v.tokens.length
  start : l.candidate.column = v.column
  line : l.candidate.line = l.cursor.line
  near : l.cursor.index ≤ l.candidate.index + 1024
  block : l.outerCandidates = []

section Keys

variable {name : String}

/-- A scalar before a colon is kept as a key. -/
theorem View.Of.exists_plain?_key (h : v.Of l) (hname : PlainText name.toList)
    (hlength : name.toList.length ≤ 1024) (hrest : v.rest = name.toList ++ ':' :: rest)
    (hends : Cursor.wordEnds rest = true) (hindent : v.indent ≤ v.column)
    (hallowed : v.keyAllowed = true) : ∃ l', l.plain? = some l' ∧ v.Keyed name rest l' := by
  obtain ⟨l', hdrop, hl', -⟩ := h.exists_dropCandidate?
  let kept : Lexer := { l' with candidate :=
    ⟨true, !l'.inFlow && l'.indent = l'.cursor.column, l'.count, l'.cursor.index, l'.cursor.line,
      l'.cursor.column⟩ }
  have hsave : l.saveCandidate? = some kept := by
    rw [Lexer.saveCandidate?, h.keyAllowed, hallowed, hdrop]
    rfl
  have hindent' : l'.indent ≤ l'.cursor.column := by rw [hl'.indent, hl'.column]; exact hindent
  have hrest' := hl'.rest.trans hrest
  have hflow : kept.inFlow = false := hl'.inFlow_eq
  have htake : takePlain? false kept.indent kept.cursor =
      some ⟨name.toList, false, l'.cursor.skip name.toList.length⟩ :=
    hname.takePlain?_key hrest' hends hindent'
  have hskip := Cursor.rest_skip hrest'
  have hcolumn : (l'.cursor.skip name.toList.length).column = v.column + name.toList.length := by
    rw [Cursor.column_skip, hl'.column]
  refine ⟨({ kept with cursor := l'.cursor.skip name.toList.length }.push
    (.scalar .plain name)).allowKey false, ?_, hskip, hcolumn, congrArg _ hl'.tokens,
    congrArg (· + 1) hl'.count, hl'.indent, hl'.outer, rfl, hl'.count, hl'.column, rfl,
    Nat.add_le_add_left hlength _, hl'.block⟩
  rw [Lexer.plain?, hsave]
  simp only [Option.bind_eq_bind, Option.bind_some, hflow, htake, String.ofList_toList]
  rfl

/-- The marks of the key and of its mapping go in front of the scalar. -/
theorem View.Keyed.exists_openBlock (h : v.Keyed name rest l) :
    ∃ l', (l.insert l.candidate.before .key).openBlock l.candidate.column l.candidate.before
      .blockMappingStart = l' ∧
      l'.cursor = l.cursor ∧ l'.outerCandidates = [] ∧
      l'.tokens = .scalar .plain name :: .key :: (v.opened .blockMappingStart).tokens ∧
      l'.count = (v.opened .blockMappingStart).tokens.length + 2 ∧
      l'.indent = (v.opened .blockMappingStart).indent ∧
      l'.outer = (v.opened .blockMappingStart).outer := by
  let marked : Lexer :=
    { l with tokens := .scalar .plain name :: .key :: v.tokens, count := v.tokens.length + 2 }
  have hmarked : l.insert l.candidate.before .key = marked := by
    simp [marked, Lexer.insert, h.count, h.before, h.tokens]
  have hflow : marked.inFlow = false := by simp [marked, Lexer.inFlow, h.block]
  have hindent : marked.indent = v.indent := h.indent
  refine ⟨_, rfl, ?_⟩
  rw [hmarked, h.before, h.start, Lexer.openBlock, hflow, Bool.false_or, hindent]
  by_cases hdeep : v.indent < v.column
  · rw [View.opened_of_lt hdeep, if_neg (by simpa using hdeep)]
    simp [marked, Lexer.insert, h.outer, h.block]
  · rw [View.opened_of_le (Int.not_lt.1 hdeep), if_pos (by simpa using hdeep)]
    exact ⟨rfl, h.block, rfl, rfl, h.indent, h.outer⟩

/-- The colon makes it one, and opens its mapping if need be. -/
theorem View.Keyed.exists_value? (h : v.Keyed name rest l) :
    ∃ l', l.value? = some l' ∧ View.Of { v.opened .blockMappingStart with
      rest := rest, column := v.column + name.toList.length + 1, keyAllowed := false,
      tokens := .value :: .scalar .plain name :: .key ::
        (v.opened .blockMappingStart).tokens } l' := by
  obtain ⟨l', hopened, hcursor, hblock, htokens, hcount, hindent, houter⟩ := h.exists_openBlock
  have hskip : (l'.cursor.skip 1).rest = rest := by rw [hcursor]; exact Cursor.rest_skip_one h.rest
  have hcolumn : (l'.cursor.skip 1).column = v.column + name.toList.length + 1 := by
    rw [Cursor.column_skip, hcursor, h.column]
  let given : Lexer := { l' with candidate := { l.candidate with possible := false } }
  refine ⟨((given.skip 1).push .value).allowKey false, ?_, hskip, hcolumn, congrArg _ htokens,
    congrArg (· + 1) hcount, hindent, houter, rfl, rfl, hblock⟩
  rw [Lexer.value?]
  simp only [h.possible, if_true, hopened]
  rfl

theorem View.Keyed.run?_eq (h : v.Keyed name rest l) (hindent : v.indent ≤ v.column) (fuel : Nat) :
    Lexer.run? (fuel + 1) l = l.token?.bind (Lexer.run? fuel) := by
  have hrefresh : Lexer.refresh? l.cursor l.candidate = some l.candidate := by
    have hline := h.line
    have hnear := h.near
    rw [Lexer.refresh?, Lexer.isStale]
    simp [hline]
    omega
  rw [Lexer.run?_succ (by rw [h.rest]; exact Text.stops_cons.2 rfl) h.block hrefresh]
  refine Lexer.resume?_token (by rw [h.rest]; nofun) ?_ fuel
  have hcolumn := h.column
  change l.indent ≤ l.cursor.column
  rw [h.indent]
  omega

theorem token?_colon (hrest : l.cursor.rest = ':' :: rest) (hends : Cursor.wordEnds rest = true) :
    l.token? = l.value? := by
  simp [Lexer.token?, hrest, Cursor.atMark, hends]

/-- A key is read with its colon. -/
theorem Reads.key (hname : PlainText name.toList) (hlength : name.toList.length ≤ 1024)
    (hrest : v.rest = name.toList ++ ':' :: rest) (hends : Cursor.wordEnds rest = true)
    (hindent : v.indent ≤ v.column) (hallowed : v.keyAllowed = true) :
    Reads v { v.opened .blockMappingStart with
      rest := rest, column := v.column + name.toList.length + 1, keyAllowed := false,
      tokens := .value :: .scalar .plain name :: .key ::
        (v.opened .blockMappingStart).tokens } := by
  intro l hl
  obtain ⟨front, hfront, hrun⟩ :=
    hl.exists_run? (hrest ▸ hname.stops_interrupts _) (by rw [hrest]; simp) hindent
  obtain ⟨keyed, htoken, hkeyed⟩ :=
    hfront.exists_plain?_key hname hlength hrest hends hindent hallowed
  obtain ⟨l', hvalue, hl'⟩ := hkeyed.exists_value?
  refine ⟨2, l', hl', ?_, fun fuel => ?_⟩
  · have hpos : 0 < name.toList.length := List.length_pos_iff.2 hname.ne_nil
    simp only [hrest, List.length_append, List.length_cons]
    omega
  · have hfuel : 2 + fuel = fuel + 1 + 1 := by omega
    rw [hfuel, hrun, hname.token?_eq (hfront.rest.trans hrest) nofun nofun hfront.inFlow_eq, htoken,
      Option.bind_some, hkeyed.run?_eq hindent, token?_colon hkeyed.rest hends, hvalue,
      Option.bind_some]

end Keys

end Turnstile.Yaml
