/-!
# Places in a YAML text

Reading YAML depends on where one stands: indentation is told by columns, and a key has to end on
the line and within reach of the place where it began.

## Main definitions

- `Yaml.Cursor` — the rest of a text and its place
- `Yaml.isBreakChar`, `Yaml.isBlankChar` — the characters that separate
- `Yaml.Cursor.atMarker` — whether a document marker stands at the cursor
- `Yaml.isAllowed` — the characters that a YAML text may hold at all
-/

namespace Turnstile.Yaml

/-- Whether a character ends a line. -/
def isBreakChar (c : Char) : Bool :=
  c = '\n' || c = '\r' || c = '\u0085' || c = '\u2028' || c = '\u2029'

/-- Whether a character is a space or tab. -/
def isBlankChar (c : Char) : Bool :=
  c = ' ' || c = '\t'

/-- Whether a character may stand in the name of an anchor, tag handle or directive. -/
def isWordChar (c : Char) : Bool :=
  c.isAlphanum || c = '-' || c = '_'

/-- Whether a YAML text may hold a character: tabs, breaks and what can be printed. -/
def isAllowed (c : Char) : Bool :=
  let n := c.toNat
  n = 0x09 || n = 0x0A || n = 0x0D || (0x20 ≤ n && n ≤ 0x7E) || n = 0x85
    || (0xA0 ≤ n && n ≤ 0xD7FF) || (0xE000 ≤ n && n ≤ 0xFFFD) || 0x10000 ≤ n

/-- The mark that may stand at the start of a text. -/
def byteOrderMark : Char := '\uFEFF'

/-- The rest of a text, and its place in characters from the start, lines, and columns. -/
structure Cursor where
  rest : List Char
  index : Nat := 0
  line : Nat := 0
  column : Nat := 0

namespace Cursor

/-- The character at the cursor. -/
def head? (c : Cursor) : Option Char := c.rest.head?

/-- Whether the text is at its end. -/
def atEnd (c : Cursor) : Bool := c.rest.isEmpty

/-- Whether a line ends at the cursor. -/
def atBreak (c : Cursor) : Bool := c.rest.head?.any isBreakChar

/-- Whether a space or tab stands at the cursor. -/
def atBlank (c : Cursor) : Bool := c.rest.head?.any isBlankChar

/-- Whether a word ends at the front of a text. -/
def wordEnds (cs : List Char) : Bool :=
  cs.head?.all fun c => isBlankChar c || isBreakChar c

/-- Whether a given character stands at the cursor. -/
def atChar (c : Cursor) (x : Char) : Bool := c.rest.head? = some x

/-- Goes on by characters of the line. -/
def skip (c : Cursor) (n : Nat) : Cursor :=
  ⟨c.rest.drop n, c.index + n, c.line, c.column + n⟩

/-- The line break at the cursor as text, and the cursor after it. All common breaks count as a line
feed; nothing is read where no line ends. -/
def takeBreak (c : Cursor) : List Char × Cursor :=
  match c.rest with
  | '\r' :: '\n' :: rest => (['\n'], ⟨rest, c.index + 2, c.line + 1, 0⟩)
  | '\u2028' :: rest => (['\u2028'], ⟨rest, c.index + 1, c.line + 1, 0⟩)
  | '\u2029' :: rest => (['\u2029'], ⟨rest, c.index + 1, c.line + 1, 0⟩)
  | x :: rest => if isBreakChar x then (['\n'], ⟨rest, c.index + 1, c.line + 1, 0⟩) else ([], c)
  | [] => ([], c)

/-- Goes on over characters of the line that satisfy a condition. -/
def skipWhile (c : Cursor) (p : Char → Bool) : Cursor :=
  c.skip (c.rest.takeWhile p).length

/-- Goes on over blanks. -/
def skipBlanks (c : Cursor) : Cursor := c.skipWhile isBlankChar

/-- Goes on over a comment, if there is one, to the end of the line. -/
def skipComment (c : Cursor) : Cursor :=
  if c.atChar '#' then c.skipWhile fun x => !isBreakChar x else c

/-- Whether three given characters stand at the start of a line and end a word. -/
def atMark (c : Cursor) (x : Char) : Bool :=
  c.column = 0 && c.rest.take 3 = [x, x, x] && wordEnds (c.rest.drop 3)

/-- Whether a document marker stands at the cursor. -/
def atMarker (c : Cursor) : Bool := c.atMark '-' || c.atMark '.'

end Cursor

end Turnstile.Yaml
