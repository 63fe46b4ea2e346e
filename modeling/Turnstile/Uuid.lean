import Turnstile.Entropy
import Turnstile.Text.Utf8

/-!
# UUIDs

Universally unique identifiers of 16 bytes: random ones of version 4, their hyphenated
written form, and the forms in which they are read.

## Main definitions

- `Uuid.random` — a version 4 identifier drawn from a source
- `Uuid.render` — the hyphenated form in lowercase
- `Uuid.read?` — hyphenated, plain, braced or as a URN
-/

namespace Turnstile

/-- An identifier of 16 bytes. -/
structure Uuid where
  bytes : Bytes
  length_bytes : bytes.length = 16
deriving DecidableEq

namespace Uuid

/-- Marks a byte as the version and variant of a random identifier, by its place. -/
def mark (i : Nat) (b : UInt8) : UInt8 :=
  if i = 6 then b &&& 0x0F ||| 0x40
  else if i = 8 then b &&& 0x3F ||| 0x80
  else b

/-- The identifier of version 4 with these random bytes. -/
def ofRandom (bs : Bytes) (h : bs.length = 16) : Uuid :=
  ⟨bs.mapIdx mark, by simp [h]⟩

/-- Draws an identifier of version 4. -/
def random (source : Entropy) : Except Failure Uuid :=
  match h : source.draw 16 with
  | .ok bs => .ok (ofRandom bs (Entropy.length_of_draw h))
  | .error e => .error e

/-- The lengths in bytes of the groups between hyphens. -/
def groups : List Nat := [4, 2, 2, 2, 6]

/-- Digits with a hyphen between groups. -/
def hyphenate : List Nat → List Char → List Char
  | [], cs => cs
  | [_], cs => cs
  | n :: rest, cs => cs.take (2 * n) ++ '-' :: hyphenate rest (cs.drop (2 * n))

/-- The hyphenated form in lowercase. -/
def render (u : Uuid) : String :=
  String.ofList (hyphenate groups (u.bytes.flatMap Bytes.hexPair))

/-- Drops the hyphens between groups, each of which has to stand in its place. -/
def dropHyphens? : List Nat → List Char → Option (List Char)
  | [], cs => some cs
  | [_], cs => some cs
  | n :: rest, cs =>
    match cs.drop (2 * n) with
    | '-' :: more => (dropHyphens? rest more).map (cs.take (2 * n) ++ ·)
    | _ => none

/-- The identifier spelled by 32 hexadecimal digits. -/
def ofDigits? (cs : List Char) : Option Uuid := do
  let bs ← Bytes.ofHexChars? cs
  if h : bs.length = 16 then return ⟨bs, h⟩ else none

/-- Reads the hyphenated form. -/
def readHyphenated? (cs : List Char) : Option Uuid := do
  ofDigits? (← dropHyphens? groups cs)

/-- Reads an identifier: hyphenated, as digits alone, hyphenated in braces, or hyphenated after
`urn:uuid:`. -/
def read? (s : String) : Option Uuid :=
  let cs := s.toList
  if cs.length = 32 then ofDigits? cs
  else if cs.length = 36 then readHyphenated? cs
  else if cs.length = 38 ∧ cs.head? = some '\x7b' ∧ cs.getLast? = some '\x7d' then
    readHyphenated? (cs.drop 1).dropLast
  else if cs.length = 45 ∧ cs.take 9 = "urn:uuid:".toList then readHyphenated? (cs.drop 9)
  else none

end Uuid

end Turnstile
