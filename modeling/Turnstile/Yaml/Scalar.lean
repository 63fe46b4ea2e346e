import Turnstile.Bytes
import Turnstile.Yaml.Cursor

/-!
# Scalars in YAML texts

A scalar is written plain, in single or double quotes, or as a block under a header. What stands
between two words of a plain or quoted scalar is folded: blanks within a line are kept, a line break
becomes a space, and of several breaks all but the first are kept.

## Main definitions

- `Yaml.Style` — the ways of writing a scalar
- `Yaml.Gap` — what stands between two words, and `Yaml.Gap.text` what it means
- `Yaml.takePlain?`, `Yaml.takeQuoted?`, `Yaml.takeBlock?` — reading a scalar at a cursor
-/

namespace Turnstile.Yaml

/-- The ways of writing a scalar. -/
inductive Style where
  | plain
  | singleQuoted
  | doubleQuoted
  | literal
  | folded
deriving DecidableEq, Repr

/-! ### Gaps -/

/-- What stands between two words: blanks, or line breaks once the line has been broken. -/
structure Gap where
  blanks : List Char := []
  broken : Bool := false
  first : List Char := []
  more : List Char := []

namespace Gap

/-- What a gap means. -/
def text (g : Gap) : List Char :=
  if g.broken then
    if g.first = ['\n'] then (if g.more = [] then [' '] else g.more) else g.first ++ g.more
  else g.blanks

/-- A gap with one more line break. -/
def addBreak (g : Gap) (b : List Char) : Gap :=
  if g.broken then { g with more := g.more ++ b } else ⟨[], true, b, []⟩

/-- A gap with one more blank; blanks at the start of a line do not count. -/
def addBlank (g : Gap) (c : Char) : Gap :=
  if g.broken then g else { g with blanks := g.blanks ++ [c] }

/-- Reads on to the end of a gap. A tab may not stand at the start of a line before the column
`floor`. -/
def take? (floor : Int) : Nat → Gap → Cursor → Option (Gap × Cursor)
  | 0, g, c => some (g, c)
  | fuel + 1, g, c =>
    match c.head? with
    | none => some (g, c)
    | some x =>
      if isBlankChar x then
        if g.broken && (c.column : Int) < floor && x = '\t' then none
        else take? floor fuel (g.addBlank x) (c.skip 1)
      else if isBreakChar x then
        let (b, c) := c.takeBreak
        take? floor fuel (g.addBreak b) c
      else some (g, c)

end Gap

/-! ### Plain scalars -/

/-- Whether a character closes or separates items of a flow collection. -/
def isFlowMark (c : Char) : Bool :=
  c = ',' || c = '[' || c = ']' || c = '\x7b' || c = '\x7d'

/-- The word of a plain scalar at the front of a text. A colon ends it before a blank; within a flow
collection so do the marks of the collection, and a colon before one of them is refused. -/
def plainWord? (flow : Bool) : List Char → Option (List Char)
  | [] => some []
  | c :: rest =>
    if isBlankChar c || isBreakChar c then some []
    else if flow && c = ':' && rest.head?.any (fun d => isFlowMark d || d = '?') then none
    else if c = ':' && Cursor.wordEnds rest then some []
    else if flow && isFlowMark c then some []
    else (plainWord? flow rest).map (c :: ·)

/-- A plain scalar as it has been read: its text, whether a line was broken after it, and where it
ends. -/
structure Plain where
  text : List Char
  broken : Bool
  rest : Cursor

/-- Reads on in a plain scalar. Outside flow collections its lines have to be indented to
`floor`. -/
def plainLoop? (flow : Bool) (floor : Int) : Nat → List Char → Gap → Cursor → Option Plain
  | 0, text, gap, c => some ⟨text, gap.broken, c⟩
  | fuel + 1, text, gap, c => do
    if c.atMarker || c.atChar '#' then return ⟨text, gap.broken, c⟩
    let word ← plainWord? flow c.rest
    let c := c.skip word.length
    let text := if word = [] then text else text ++ gap.text ++ word
    let gap := if word = [] then gap else {}
    if !(c.atBlank || c.atBreak) then return ⟨text, gap.broken, c⟩
    let (gap, c) ← gap.take? floor c.rest.length c
    if !flow && (c.column : Int) < floor then return ⟨text, gap.broken, c⟩
    plainLoop? flow floor fuel text gap c

/-- Reads a plain scalar under an indentation. -/
def takePlain? (flow : Bool) (indent : Int) (c : Cursor) : Option Plain :=
  plainLoop? flow (indent + 1) (c.rest.length + 1) [] {} c

/-! ### Quoted scalars -/

/-- The character that a one-letter escape stands for. -/
def escaped? (c : Char) : Option Char :=
  match c with
  | '0' => some '\x00'
  | 'a' => some '\x07'
  | 'b' => some '\x08'
  | 't' => some '\t'
  | '\t' => some '\t'
  | 'n' => some '\n'
  | 'v' => some '\x0b'
  | 'f' => some '\x0c'
  | 'r' => some '\r'
  | 'e' => some '\x1b'
  | ' ' => some ' '
  | '"' => some '"'
  | '/' => some '/'
  | '\\' => some '\\'
  | 'N' => some '\u0085'
  | '_' => some '\u00a0'
  | 'L' => some '\u2028'
  | 'P' => some '\u2029'
  | _ => none

/-- The number of digits that an escape by number has. -/
def escapeDigits? (c : Char) : Option Nat :=
  match c with
  | 'x' => some 2
  | 'u' => some 4
  | 'U' => some 8
  | _ => none

/-- The character with a number in hexadecimal, if there is one. -/
def charOfHex? (digits : List Char) : Option Char := do
  let values ← digits.mapM Bytes.hexValue?
  let n := values.foldl (fun n d => n * 16 + d) 0
  if (0xD800 ≤ n ∧ n ≤ 0xDFFF) ∨ n > 0x10FFFF then none else return Char.ofNat n

/-- What the backslash and the letter after it stand for, with the characters they take. -/
def takeEscape? (cs : List Char) : Option (Char × Nat) :=
  match cs with
  | [] => none
  | c :: rest =>
    match escapeDigits? c with
    | some n => if rest.length < n then none else (charOfHex? (rest.take n)).map (·, 2 + n)
    | none => (escaped? c).map (·, 2)

/-- The words of a quoted scalar up to a blank, a break or the closing quote, and whether an escaped
line break ended them. -/
def quotedWord? (single : Bool) : Nat → List Char → Cursor → Option (List Char × Bool × Cursor)
  | 0, _, _ => none
  | fuel + 1, text, c =>
    match c.rest with
    | [] => some (text, false, c)
    | x :: rest =>
      if isBlankChar x || isBreakChar x then some (text, false, c)
      else if single && x = '\'' && rest.head? = some '\'' then
        quotedWord? single fuel (text ++ ['\'']) (c.skip 2)
      else if x = (if single then '\'' else '"') then some (text, false, c)
      else if !single && x = '\\' then
        if rest.head?.any isBreakChar then some (text, true, (c.skip 1).takeBreak.2)
        else do
          let (y, n) ← takeEscape? rest
          quotedWord? single fuel (text ++ [y]) (c.skip n)
      else quotedWord? single fuel (text ++ [x]) (c.skip 1)

/-- Reads on in a quoted scalar. -/
def quotedLoop? (single : Bool) : Nat → List Char → Cursor → Option (List Char × Cursor)
  | 0, _, _ => none
  | fuel + 1, text, c => do
    if c.atMarker || c.atEnd then none
    else
      let (text, escapedBreak, c) ← quotedWord? single (c.rest.length + 1) text c
      if c.atChar (if single then '\'' else '"') then return (text, c.skip 1)
      else
        let gap : Gap := if escapedBreak then { broken := true } else {}
        let (gap, c) ← gap.take? 0 c.rest.length c
        quotedLoop? single fuel (text ++ gap.text) c

/-- Reads a quoted scalar from its opening quote on. -/
def takeQuoted? (single : Bool) (c : Cursor) : Option (List Char × Cursor) :=
  quotedLoop? single (c.rest.length + 1) [] (c.skip 1)

/-! ### Block scalars -/

/-- What a block does with the line breaks at its end. -/
inductive Chomp where
  | clip
  | strip
  | keep
deriving DecidableEq, Repr

/-- What a sign in the header of a block says about the breaks at its end. -/
def chomp? (c : Option Char) : Option Chomp :=
  match c with
  | some '+' => some .keep
  | some '-' => some .strip
  | _ => none

/-- The indentation that a digit in the header of a block gives; zero is refused. -/
def indentDigit? (c : Cursor) : Option (Nat × Cursor) :=
  match c.head? with
  | some x =>
    if x.isDigit then (if x = '0' then none else some (x.toNat - 48, c.skip 1)) else some (0, c)
  | none => some (0, c)

/-- The header of a block: the breaks to keep, the indentation if one is given, and the cursor at
the first line. -/
def takeHeader? (c : Cursor) : Option (Chomp × Nat × Cursor) := do
  let (chomp, increment, c) ← match chomp? c.head? with
    | some chomp => do
      let (increment, c) ← indentDigit? (c.skip 1)
      pure (chomp, increment, c)
    | none => do
      let (increment, c) ← indentDigit? c
      match (if increment = 0 then none else chomp? c.head?) with
      | some chomp => pure (chomp, increment, c.skip 1)
      | none => pure (Chomp.clip, increment, c)
  let c := c.skipBlanks.skipComment
  if c.atBreak || c.atEnd then return (chomp, increment, c.takeBreak.2) else none

/-- Reads indentation and empty lines of a block. As long as the indentation is not known, all
spaces count as such, and the deepest is remembered. Tabs may not stand in it. -/
def takeIndent? (indent : Nat) : Nat → Nat → List Char → Cursor → Option (Nat × List Char × Cursor)
  | 0, deepest, breaks, c => some (deepest, breaks, c)
  | fuel + 1, deepest, breaks, c =>
    let spaces := (c.rest.takeWhile (· = ' ')).length
    let c := c.skip (if indent = 0 then spaces else min spaces (indent - c.column))
    let deepest := max deepest c.column
    if (indent = 0 || c.column < indent) && c.atChar '\t' then none
    else if c.atBreak then
      let (b, c) := c.takeBreak
      takeIndent? indent fuel deepest (breaks ++ b) c
    else some (deepest, breaks, c)

/-- What a block has come to: its text, the break after the last line, the empty lines after that,
and whether the last line began with a blank. -/
structure Block where
  text : List Char := []
  lastBreak : List Char := []
  empties : List Char := []
  blank : Bool := false

/-- The text of a block with the break before its next line. In a folded block the break before a
line counts as a space, or as nothing before empty lines, unless one of the lines begins with a
blank. -/
def Block.join (b : Block) (folded nextBlank : Bool) : List Char :=
  if folded && b.lastBreak = ['\n'] && !b.blank && !nextBlank then
    b.text ++ (if b.empties = [] then [' '] else []) ++ b.empties
  else b.text ++ b.lastBreak ++ b.empties

/-- Reads the lines of a block. -/
def blockLoop? (folded : Bool) (indent : Nat) : Nat → Block → Cursor → Option (Block × Cursor)
  | 0, b, c => some (b, c)
  | fuel + 1, b, c =>
    if c.column = indent && !c.atEnd then do
      let line := c.rest.takeWhile fun x => !isBreakChar x
      let text := b.join folded c.atBlank ++ line
      let blank := c.atBlank
      let (lastBreak, c) := (c.skip line.length).takeBreak
      let (_, empties, c) ← takeIndent? indent (c.rest.length + 1) 0 [] c
      blockLoop? folded indent fuel ⟨text, lastBreak, empties, blank⟩ c
    else some (b, c)

/-- Reads a block from its mark on, under an indentation. -/
def takeBlock? (folded : Bool) (parent : Int) (c : Cursor) : Option (List Char × Cursor) := do
  let (chomp, increment, c) ← takeHeader? (c.skip 1)
  let given := if increment = 0 then 0 else (max parent 0).toNat + increment
  let (deepest, empties, c) ← takeIndent? given (c.rest.length + 1) 0 [] c
  let indent := if given = 0 then max (max deepest (parent + 1).toNat) 1 else given
  let (b, c) ← blockLoop? folded indent (c.rest.length + 1) { empties := empties } c
  let tail := match chomp with
    | .strip => []
    | .clip => b.lastBreak
    | .keep => b.lastBreak ++ b.empties
  return (b.text ++ tail, c)

end Turnstile.Yaml
