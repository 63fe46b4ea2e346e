import Turnstile.Text.Utf8
import Turnstile.Yaml.Scalar

/-!
# YAML tokens

A YAML text as a sequence of tokens. Indentation and the mark of a key are tokens too: that a
collection begins, or that something was a key, may only be seen after it has been read, and then
the token is put in where it belongs.

Something can be a key as long as it may still be followed by its colon: on the same line, within
1024 characters. One such candidate is kept for every open flow collection.

## Main definitions

- `Yaml.Token` — tokens
- `Yaml.takeTag?`, `Yaml.takeDirective?` — tags and directives at a cursor
- `Yaml.Lexer` — what has been read so far
- `Yaml.Token.ofText?` — the tokens of a text
-/

namespace Turnstile.Yaml

/-- A tag as it is written: a handle and what follows it. -/
structure TagName where
  handle : List Char
  suffix : List Char
deriving DecidableEq

/-- The tokens of a YAML text. -/
inductive Token where
  | version (major minor : Nat)
  | tagDirective (handle uri : List Char)
  | documentStart
  | documentEnd
  | blockSequenceStart
  | blockMappingStart
  | blockEnd
  | flowSequenceStart
  | flowSequenceEnd
  | flowMappingStart
  | flowMappingEnd
  | blockEntry
  | flowEntry
  | key
  | value
  | alias (name : String)
  | anchor (name : String)
  | tag (name : TagName)
  | scalar (style : Style) (text : String)
deriving DecidableEq

/-! ### Tags -/

/-- The marks that may stand in a tag beside word characters; within angle brackets some more. -/
def isTagChar (bracketed : Bool) (c : Char) : Bool :=
  isWordChar c || ";/?:@&=+$.%!~*'()".toList.contains c || (bracketed && ",[]".toList.contains c)

/-- The byte that an escape in a tag spells. -/
def tagByte? (cs : List Char) : Option UInt8 :=
  match cs with
  | '%' :: h :: l :: _ => do
    return UInt8.ofNat ((← Bytes.hexValue? h) * 16 + (← Bytes.hexValue? l))
  | _ => none

/-- The number of bytes in a character that begins with a byte. -/
def widthOf? (b : UInt8) : Option Nat :=
  if b < 0x80 then some 1
  else if b &&& 0xE0 = 0xC0 then some 2
  else if b &&& 0xF0 = 0xE0 then some 3
  else if b &&& 0xF8 = 0xF0 then some 4
  else none

/-- The bytes that continue a character, from escapes. -/
def tailBytes? : Nat → List Char → Option (List UInt8)
  | 0, _ => some []
  | n + 1, cs => do
    let b ← tagByte? cs
    if b &&& 0xC0 = 0x80 then return b :: (← tailBytes? n (cs.drop 3)) else none

/-- The characters of a tag, in which escapes spell characters byte by byte, and what follows. -/
def takeTagChars? (bracketed : Bool) : Nat → List Char → Cursor → Option (List Char × Cursor)
  | 0, text, c => some (text, c)
  | fuel + 1, text, c =>
    match c.head? with
    | none => some (text, c)
    | some x =>
      if !isTagChar bracketed x then some (text, c)
      else if x = '%' then do
        let first ← tagByte? c.rest
        let width ← widthOf? first
        let tails ← tailBytes? (width - 1) (c.rest.drop 3)
        let spelled := Utf8.decodeCharsLenient (first :: tails)
        takeTagChars? bracketed fuel (text ++ spelled) (c.skip (3 * width))
      else takeTagChars? bracketed fuel (text ++ [x]) (c.skip 1)

/-- Reads the rest of a tag after the characters `text` that belong to it already; all of it
together may not be empty unless `given` says that something stood before. -/
def takeTagUri? (bracketed given : Bool) (text : List Char) (c : Cursor) :
    Option (List Char × Cursor) := do
  let (uri, after) ← takeTagChars? bracketed (c.rest.length + 1) text c
  if !given && after.index = c.index then none else return (uri, after)

/-- Reads a handle: an exclamation mark, word characters, and perhaps another mark. In a directive a
handle of more than one character has to end in a mark. -/
def takeHandle? (directive : Bool) (c : Cursor) : Option (List Char × Cursor) :=
  if !c.atChar '!' then none
  else
    let word := (c.rest.drop 1).takeWhile isWordChar
    let after := c.skip (1 + word.length)
    if after.atChar '!' then some ('!' :: word ++ ['!'], after.skip 1)
    else if directive && word ≠ [] then none
    else some ('!' :: word, after)

/-- Whether a handle is closed by a second mark. -/
def isClosedHandle (handle : List Char) : Bool :=
  handle.length ≥ 2 && handle.getLast? = some '!'

/-- Reads a tag. A tag alone in angle brackets is taken as it is, and so is a lone exclamation
mark. -/
def takeTag? (flow : Bool) (c : Cursor) : Option (TagName × Cursor) := do
  let (tag, c) ←
    if c.rest.take 2 = ['!', '<'] then do
      let (uri, c) ← takeTagUri? true false [] (c.skip 2)
      if c.atChar '>' then pure (TagName.mk [] uri, c.skip 1) else none
    else do
      let (handle, after) ← takeHandle? false c
      if isClosedHandle handle then do
        let (uri, c) ← takeTagUri? false false [] after
        pure (TagName.mk handle uri, c)
      else do
        let (uri, c) ← takeTagUri? false true (handle.drop 1) after
        pure (if uri = [] then TagName.mk [] ['!'] else TagName.mk ['!'] uri, c)
  if Cursor.wordEnds c.rest || (flow && c.atChar ',') then return (tag, c) else none

/-! ### Directives -/

/-- A number in a directive, of at most nine digits. -/
def takeVersionNumber? (c : Cursor) : Option (Nat × Cursor) :=
  let digits := c.rest.takeWhile Char.isDigit
  if digits = [] ∨ digits.length > 9 then none
  else some (digits.foldl (fun n d => n * 10 + (d.toNat - 48)) 0, c.skip digits.length)

/-- Reads the version of YAML that a text claims. -/
def takeVersion? (c : Cursor) : Option (Token × Cursor) := do
  let (major, c) ← takeVersionNumber? c.skipBlanks
  if !c.atChar '.' then none
  else
    let (minor, c) ← takeVersionNumber? (c.skip 1)
    return (.version major minor, c)

/-- Reads a handle and what it stands for. -/
def takeTagDirective? (c : Cursor) : Option (Token × Cursor) := do
  let (handle, c) ← takeHandle? true c.skipBlanks
  if !c.atBlank then none
  else
    let (uri, c) ← takeTagUri? true false [] c.skipBlanks
    if Cursor.wordEnds c.rest then return (.tagDirective handle uri, c) else none

/-- Reads a directive with its line. Only versions and tags can be directed. -/
def takeDirective? (c : Cursor) : Option (Token × Cursor) := do
  let name := (c.rest.drop 1).takeWhile isWordChar
  let c := c.skip (1 + name.length)
  if !Cursor.wordEnds c.rest then none
  else
    let (token, c) ←
      if name = "YAML".toList then takeVersion? c
      else if name = "TAG".toList then takeTagDirective? c
      else none
    let c := c.skipBlanks.skipComment
    if c.atBreak || c.atEnd then return (token, c.takeBreak.2) else none

/-! ### The lexer -/

/-- Something that may turn out to be a key, if it may be at all: the number of tokens before it,
where it began, and whether it has to be a key because of where it stands. -/
structure Candidate where
  possible : Bool := false
  required : Bool := false
  before : Nat := 0
  index : Nat := 0
  line : Nat := 0
  column : Nat := 0

/-- What has been read of a text: the tokens, last first, the indentation of the open block
collections, whether a key may begin, and the candidates for keys from the innermost flow collection
outwards. -/
structure Lexer where
  cursor : Cursor
  tokens : List Token := []
  count : Nat := 0
  indent : Int := -1
  outer : List Int := []
  keyAllowed : Bool := true
  candidate : Candidate := {}
  outerCandidates : List Candidate := []

namespace Lexer

/-- Whether a flow collection is open. -/
def inFlow (l : Lexer) : Bool := !l.outerCandidates.isEmpty

/-- Adds a token. -/
def push (l : Lexer) (t : Token) : Lexer :=
  { l with tokens := t :: l.tokens, count := l.count + 1 }

/-- Puts a token in where `before` tokens stand in front of it. -/
def insert (l : Lexer) (before : Nat) (t : Token) : Lexer :=
  let behind := l.count - before
  { l with tokens := l.tokens.take behind ++ t :: l.tokens.drop behind, count := l.count + 1 }

/-- Goes on over a mark. -/
def skip (l : Lexer) (n : Nat) : Lexer := { l with cursor := l.cursor.skip n }

/-- Sets whether a key may begin. -/
def allowKey (l : Lexer) (allowed : Bool) : Lexer := { l with keyAllowed := allowed }

/-- Gives up the candidate of the innermost collection; one that has to be a key cannot be given
up. -/
def dropCandidate? (l : Lexer) : Option Lexer :=
  if l.candidate.possible && l.candidate.required then none
  else some { l with candidate := { l.candidate with possible := false } }

/-- Whether a candidate lies too far back to become a key. -/
def isStale (c : Cursor) (k : Candidate) : Bool :=
  k.possible && (k.line < c.line || k.index + 1024 < c.index)

/-- A candidate, given up if it lies too far back. -/
def refresh? (c : Cursor) (k : Candidate) : Option Candidate :=
  if isStale c k then (if k.required then none else some { k with possible := false }) else some k

/-- Gives up all candidates that lie too far back. -/
def dropStale? (l : Lexer) : Option Lexer := do
  let candidate ← refresh? l.cursor l.candidate
  let outer ← l.outerCandidates.mapM (refresh? l.cursor)
  return { l with candidate := candidate, outerCandidates := outer }

/-- Makes what begins at the cursor a candidate for a key, if a key may begin. -/
def saveCandidate? (l : Lexer) : Option Lexer :=
  if !l.keyAllowed then some l
  else do
    let l ← l.dropCandidate?
    let c := l.cursor
    let required := !l.inFlow && l.indent = c.column
    return { l with candidate := ⟨true, required, l.count, c.index, c.line, c.column⟩ }

/-- Opens a block collection at a column, if it is deeper than the open ones. Its token goes behind
the first `before` tokens. -/
def openBlock (l : Lexer) (column before : Nat) (t : Token) : Lexer :=
  if l.inFlow || (column : Int) ≤ l.indent then l
  else { l.insert before t with indent := column, outer := l.indent :: l.outer }

/-- Closes the block collections that are deeper than a column. -/
def closeBlocks (column : Int) : List Int → Lexer → Lexer
  | [], l => l
  | i :: rest, l =>
    if column < l.indent then
      closeBlocks column rest { l.push .blockEnd with indent := i, outer := rest }
    else l

/-- Closes the block collections that are deeper than a column; flow collections have none. -/
def closeTo (l : Lexer) (column : Int) : Lexer :=
  if l.inFlow then l else closeBlocks column l.outer l

/-- Goes on over blanks, comments and line breaks to the next token. Tabs do not count as blanks
where a key may begin. -/
def toNext : Nat → Lexer → Lexer
  | 0, l => l
  | fuel + 1, l =>
    let c := l.cursor
    let c := if c.column = 0 && c.atChar byteOrderMark then c.skip 1 else c
    let tabs := l.inFlow || !l.keyAllowed
    let c := (c.skipWhile fun x => x = ' ' || (tabs && x = '\t')).skipComment
    if c.atBreak then
      toNext fuel { l with cursor := c.takeBreak.2, keyAllowed := l.keyAllowed || !l.inFlow }
    else { l with cursor := c }

/-! ### Reading one token -/

/-- The end of the text closes everything. -/
def finish? (l : Lexer) : Option Lexer :=
  (l.closeTo (-1)).dropCandidate?

/-- A directive. -/
def directive? (l : Lexer) : Option Lexer := do
  let l ← (l.closeTo (-1)).dropCandidate?
  let (t, c) ← takeDirective? l.cursor
  return ({ l with cursor := c }.push t).allowKey false

/-- A document marker. -/
def marker? (l : Lexer) (t : Token) : Option Lexer := do
  let l ← (l.closeTo (-1)).dropCandidate?
  return ((l.skip 3).push t).allowKey false

/-- The opening of a flow collection. -/
def openFlow? (l : Lexer) (t : Token) : Option Lexer := do
  let l ← l.saveCandidate?
  let l := { l with outerCandidates := l.candidate :: l.outerCandidates, candidate := {} }
  return ((l.skip 1).push t).allowKey true

/-- The closing of a flow collection. -/
def closeFlow? (l : Lexer) (t : Token) : Option Lexer := do
  let l ← l.dropCandidate?
  let l := match l.outerCandidates with
    | k :: rest => { l with candidate := k, outerCandidates := rest }
    | [] => l
  return ((l.skip 1).push t).allowKey false

/-- The comma of a flow collection. -/
def flowEntry? (l : Lexer) : Option Lexer := do
  let l ← l.dropCandidate?
  return ((l.skip 1).push .flowEntry).allowKey true

/-- The dash of an item. -/
def blockEntry? (l : Lexer) : Option Lexer := do
  if !l.inFlow && !l.keyAllowed then none
  else
    let l ← (l.openBlock l.cursor.column l.count .blockSequenceStart).dropCandidate?
    return ((l.skip 1).push .blockEntry).allowKey true

/-- The question mark of a key. -/
def explicitKey? (l : Lexer) : Option Lexer := do
  if !l.inFlow && !l.keyAllowed then none
  else
    let l ← (l.openBlock l.cursor.column l.count .blockMappingStart).dropCandidate?
    return ((l.skip 1).push .key).allowKey (!l.inFlow)

/-- The colon of a value. If there is a candidate it is a key now, and its mapping begins with it.
-/
def value? (l : Lexer) : Option Lexer :=
  let k := l.candidate
  if k.possible then
    let l := (l.insert k.before .key).openBlock k.column k.before .blockMappingStart
    let l := { l with candidate := { k with possible := false } }
    some (((l.skip 1).push .value).allowKey false)
  else if !l.inFlow && !l.keyAllowed then none
  else
    let l := l.openBlock l.cursor.column l.count .blockMappingStart
    some (((l.skip 1).push .value).allowKey (!l.inFlow))

/-- The name of an anchor or alias. -/
def name? (l : Lexer) (token : String → Token) : Option Lexer := do
  let l ← l.saveCandidate?
  let word := (l.cursor.rest.drop 1).takeWhile isWordChar
  let c := l.cursor.skip (1 + word.length)
  let ends := Cursor.wordEnds c.rest || c.head?.any fun x => "?:,]\x7d%@`".toList.contains x
  if word = [] ∨ !ends then none
  else return ({ l with cursor := c }.push (token (String.ofList word))).allowKey false

/-- A tag. -/
def tag? (l : Lexer) : Option Lexer := do
  let l ← l.saveCandidate?
  let (name, c) ← takeTag? l.inFlow l.cursor
  return ({ l with cursor := c }.push (.tag name)).allowKey false

/-- A block scalar. -/
def block? (l : Lexer) (folded : Bool) : Option Lexer := do
  let l ← l.dropCandidate?
  let (text, c) ← takeBlock? folded l.indent l.cursor
  let style := if folded then Style.folded else Style.literal
  return ({ l with cursor := c }.push (.scalar style (String.ofList text))).allowKey true

/-- A quoted scalar. -/
def quoted? (l : Lexer) (single : Bool) : Option Lexer := do
  let l ← l.saveCandidate?
  let (text, c) ← takeQuoted? single l.cursor
  let style := if single then Style.singleQuoted else Style.doubleQuoted
  return ({ l with cursor := c }.push (.scalar style (String.ofList text))).allowKey false

/-- A plain scalar. A key may begin after it only if it was followed by a line break. -/
def plain? (l : Lexer) : Option Lexer := do
  let l ← l.saveCandidate?
  let p ← takePlain? l.inFlow l.indent l.cursor
  let l := { l with cursor := p.rest }.push (.scalar .plain (String.ofList p.text))
  return l.allowKey p.broken

/-- The marks that no plain scalar begins with. -/
def isIndicator (c : Char) : Bool :=
  "-?:,[]\x7b\x7d#&*!|>'\"%@`".toList.contains c

/-- Whether a plain scalar begins at the front of a text. -/
def beginsPlain (flow : Bool) (cs : List Char) : Bool :=
  match cs with
  | [] => false
  | c :: rest =>
    if isBlankChar c || isBreakChar c then false
    else if !isIndicator c then true
    else if c = '-' then !rest.head?.any isBlankChar
    else !flow && (c = '?' || c = ':') && !Cursor.wordEnds rest

/-- Reads the token at the cursor. -/
def token? (l : Lexer) : Option Lexer :=
  let c := l.cursor
  match c.rest with
  | [] => none
  | x :: rest =>
    let ends := Cursor.wordEnds rest
    if c.column = 0 && x = '%' then l.directive?
    else if c.atMark '-' then l.marker? .documentStart
    else if c.atMark '.' then l.marker? .documentEnd
    else if x = '[' then l.openFlow? .flowSequenceStart
    else if x = '\x7b' then l.openFlow? .flowMappingStart
    else if x = ']' then l.closeFlow? .flowSequenceEnd
    else if x = '\x7d' then l.closeFlow? .flowMappingEnd
    else if x = ',' then l.flowEntry?
    else if x = '-' && ends then l.blockEntry?
    else if x = '?' && (l.inFlow || ends) then l.explicitKey?
    else if x = ':' && (l.inFlow || ends) then l.value?
    else if x = '*' then l.name? .alias
    else if x = '&' then l.name? .anchor
    else if x = '!' then l.tag?
    else if x = '|' && !l.inFlow then l.block? false
    else if x = '>' && !l.inFlow then l.block? true
    else if x = '\'' then l.quoted? true
    else if x = '"' then l.quoted? false
    else if beginsPlain l.inFlow c.rest then l.plain?
    else none

/-- Reads tokens to the end of the text. Every token takes at least one character. -/
def run? : Nat → Lexer → Option Lexer
  | 0, _ => none
  | fuel + 1, l => do
    let l := l.toNext (l.cursor.rest.length + 1)
    let l ← l.dropStale?
    let l := l.closeTo l.cursor.column
    if l.cursor.atEnd then l.finish? else run? fuel (← l.token?)

end Lexer

/-- The tokens of a text; `none` if it holds a character that no YAML text may hold, or cannot be
read to its end. -/
def Token.ofText? (text : List Char) : Option (List Token) :=
  if !text.all isAllowed then none
  else (Lexer.run? (text.length + 1) { cursor := { rest := text } }).map (·.tokens.reverse)

end Turnstile.Yaml
