import Turnstile.Yaml.Meaning

/-!
# Writing YAML

Trees are written as block collections, one entry a line, each level two columns deeper; only the
items of a list stand under their key. A text is written plain where it would be read as that text
again, else in the plainest style that can hold it. Lines are never folded.

## Main definitions

- `Yaml.Style.ofText` — the style in which a text is written
- `Yaml.scalarText` — a text in a style
- `Yaml.render` — a tree as a YAML text
-/

namespace Turnstile.Yaml

/-! ### The style of a text -/

/-- Whether a character can stand for itself outside double quotes. -/
def isPrintable (c : Char) : Bool :=
  let n := c.toNat
  n = 0x0A || (0x20 ≤ n && n ≤ 0x7E) || (0xA0 ≤ n && n ≤ 0xFFFD && n ≠ 0xFEFF) || 0x10000 ≤ n

/-- Whether somewhere a character that satisfies `p` stands before one that satisfies `q`. -/
def hasAdjacent (p q : Char → Bool) : List Char → Bool
  | a :: b :: rest => (p a && q b) || hasAdjacent p q (b :: rest)
  | _ => false

/-- Whether a colon or a hash in a text would be taken for a mark. -/
def hasInnerMark (afterBlank : Bool) : List Char → Bool
  | [] => false
  | c :: rest =>
    (c = ':' && Cursor.wordEnds rest) || (c = '#' && afterBlank)
      || hasInnerMark (isBlankChar c || isBreakChar c) rest

/-- Whether a plain text would be taken for something else because of the marks in it. -/
def hasMark (cs : List Char) : Bool :=
  match cs with
  | [] => false
  | c :: rest =>
    cs.take 3 = ['-', '-', '-'] || cs.take 3 = ['.', '.', '.']
      || "#,[]\x7b\x7d&*!|>'\"%@`".toList.contains c
      || ("?:-".toList.contains c && Cursor.wordEnds rest)
      || hasInnerMark (isBlankChar c || isBreakChar c) rest

/-- Whether a plain scalar with this text would be read as a text. Digits with zeros in front are no
number either, but are not left plain. -/
def readsAsText (s : String) : Bool :=
  match plainMeaning? s with
  | some (.text _) => !hasLeadingZeros s.toList
  | _ => false

/-- Whether spaces and breaks stand only where a plain scalar keeps them. -/
def isCompact (cs : List Char) : Bool :=
  let isEdge (c : Char) := c = ' ' || isBreakChar c
  !cs.head?.any isEdge && !cs.getLast?.any isEdge && !cs.any isBreakChar

/-- The style in which a text is written. -/
def Style.ofText (s : String) : Style :=
  let cs := s.toList
  let spaceBreak := hasAdjacent (· = ' ') isBreakChar cs
  let breakSpace := hasAdjacent isBreakChar (· = ' ') cs
  let isPlainText := cs.all isPrintable && !spaceBreak
  if cs.contains '\n' then
    if isPlainText && cs.getLast? ≠ some ' ' then .literal else .doubleQuoted
  else if !readsAsText s then .singleQuoted
  else if isPlainText && !breakSpace then
    if isCompact cs && !hasMark cs then .plain else .singleQuoted
  else .doubleQuoted

/-! ### Scalars -/

/-- Spaces up to a column. -/
def spaces (n : Nat) : List Char := List.replicate n ' '

/-- Digits in base sixteen, with capital letters. -/
def hexDigits (width n : Nat) : List Char :=
  (List.range width).reverse.map fun k => (Nat.digitChar (n / Nat.pow 16 k % 16)).toUpper

/-- The letter of the short escape for a character. -/
def escapeLetter? (c : Char) : Option Char :=
  match c with
  | '\x00' => some '0'
  | '\x07' => some 'a'
  | '\x08' => some 'b'
  | '\t' => some 't'
  | '\n' => some 'n'
  | '\x0b' => some 'v'
  | '\x0c' => some 'f'
  | '\r' => some 'r'
  | '\x1b' => some 'e'
  | '"' => some '"'
  | '\\' => some '\\'
  | '\u0085' => some 'N'
  | '\u2028' => some 'L'
  | '\u2029' => some 'P'
  | _ => none

/-- A character within double quotes. -/
def escape (c : Char) : List Char :=
  match escapeLetter? c with
  | some letter => ['\\', letter]
  | none =>
    let n := c.toNat
    if isPrintable c then [c]
    else if n ≤ 0xFF then '\\' :: 'x' :: hexDigits 2 n
    else if n ≤ 0xFFFF then '\\' :: 'u' :: hexDigits 4 n
    else '\\' :: 'U' :: hexDigits 8 n

/-- A text within single quotes up to the closing one. A line that has been broken goes on under the
indentation. -/
def singleQuoted (indent : Nat) (broken : Bool) : List Char → List Char
  | [] => if broken then spaces indent else []
  | c :: rest =>
    if isBreakChar c then c :: singleQuoted indent true rest
    else
      (if broken then spaces indent else []) ++ (if c = '\'' then ['\'', '\''] else [c])
        ++ singleQuoted indent false rest

/-- The lines of a literal block. Empty lines are not indented. -/
def literalLines (indent : Nat) (broken : Bool) : List Char → List Char
  | [] => []
  | c :: rest =>
    if isBreakChar c then c :: literalLines indent true rest
    else (if broken then spaces indent else []) ++ c :: literalLines indent false rest

/-- The header of a literal block: its indentation if the text itself begins with spaces or breaks,
and what to do with the breaks at its end. -/
def literalHeader (cs : List Char) : List Char :=
  let hint := if cs.head?.any fun c => c = ' ' || isBreakChar c then ['2'] else []
  let chomp := match cs.reverse with
    | [] => ['-']
    | [c] => if isBreakChar c then ['+'] else ['-']
    | c :: d :: _ => if !isBreakChar c then ['-'] else if isBreakChar d then ['+'] else []
  '|' :: hint ++ chomp

/-- A text in a style; further lines are indented. -/
def scalarText (indent : Nat) (style : Style) (cs : List Char) : List Char :=
  match style with
  | .singleQuoted => '\'' :: singleQuoted indent false cs ++ ['\'']
  | .doubleQuoted => '"' :: cs.flatMap escape ++ ['"']
  | .literal | .folded => literalHeader cs ++ '\n' :: literalLines indent true cs
  | .plain => cs

/-! ### Trees -/

/-- A text with a line break at its end. -/
def endLine (cs : List Char) : List Char :=
  if cs.getLast?.any isBreakChar then cs else cs ++ ['\n']

/-- The text of a thing without parts. -/
def leaf (indent : Nat) : Data → List Char
  | .null => "null".toList
  | .bool b => (if b then "true" else "false").toList
  | .int n => (toString n).toList
  | .real => ".nan".toList
  | .text s => scalarText indent (Style.ofText s) s.toList
  | .list _ => ['[', ']']
  | .map _ => ['\x7b', '\x7d']

mutual

/-- What follows the dash of an item at a column. -/
def item (indent : Nat) : Data → List Char
  | .list (v :: rest) => items (indent + 2) (v :: rest)
  | .map (e :: rest) => entries (indent + 2) (e :: rest)
  | v => endLine (leaf (indent + 2) v)

/-- The items of a list from the dash of the first on, which stands at a column already. -/
def items (indent : Nat) : List Data → List Char
  | [] => []
  | [v] => '-' :: ' ' :: item indent v
  | v :: rest => '-' :: ' ' :: item indent v ++ spaces indent ++ items indent rest

/-- What follows the colon of an entry at a column. -/
def entryValue (indent : Nat) : Data → List Char
  | .list (v :: rest) => '\n' :: spaces indent ++ items indent (v :: rest)
  | .map (e :: rest) => '\n' :: spaces (indent + 2) ++ entries (indent + 2) (e :: rest)
  | v => ' ' :: endLine (leaf (indent + 2) v)

/-- The entries of a map from the first key on, which stands at a column already. -/
def entries (indent : Nat) : List (Data × Data) → List Char
  | [] => []
  | [(key, v)] => leaf indent key ++ ':' :: entryValue indent v
  | (key, v) :: rest =>
    leaf indent key ++ ':' :: entryValue indent v ++ spaces indent ++ entries indent rest

end

/-- A tree as a YAML text. -/
def render : Data → List Char
  | .list (v :: rest) => items 0 (v :: rest)
  | .map (e :: rest) => entries 0 (e :: rest)
  | v => endLine (leaf 2 v)

end Turnstile.Yaml
