import Turnstile.Text.Split
import Turnstile.Text.Utf8

/-!
# Form-encoded queries

A query is a list of pairs of texts, written `name=value` with `&` between pairs. In names and
values a plus sign stands for a space and `%` with two hexadecimal digits for a byte of UTF-8.
Reading never fails: empty pieces are no pairs, a piece without `=` has an empty value, a `%`
without digits stands for itself, and malformed UTF-8 reads as U+FFFD.

## Main definitions

- `Form.decode`, `Form.encode` — one name or value
- `Form.parse`, `Form.render` — a query as a list of pairs
-/

namespace Turnstile.Form

/-- The bytes of a text in which `%` with two hexadecimal digits stands for a byte. -/
def percentDecode : Bytes → Bytes
  | [] => []
  | [b] => [b]
  | [b, c] => [b, c]
  | b :: h :: l :: rest =>
    match Bytes.hexValue? (Char.ofNat h.toNat), Bytes.hexValue? (Char.ofNat l.toNat) with
    | some high, some low =>
      if b = 0x25 then UInt8.ofNat (high * 16 + low) :: percentDecode rest
      else b :: percentDecode (h :: l :: rest)
    | _, _ => b :: percentDecode (h :: l :: rest)

/-- A plus sign stands for a space. -/
def plusToSpace (b : UInt8) : UInt8 :=
  if b = 0x2B then 0x20 else b

/-- The text that a name or value spells. -/
def decode (cs : List Char) : String :=
  Utf8.decodeLenient (percentDecode ((Utf8.encodeChars cs).map plusToSpace))

/-- Whether a byte is written as itself: letters, digits and four marks. -/
def isPlain (b : UInt8) : Bool :=
  (0x30 ≤ b && b ≤ 0x39) || (0x41 ≤ b && b ≤ 0x5A) || (0x61 ≤ b && b ≤ 0x7A)
    || b = 0x2A || b = 0x2D || b = 0x2E || b = 0x5F

/-- The uppercase hexadecimal digit of a number below sixteen. -/
def upperHexDigit (n : Nat) : Char :=
  if n < 10 then Char.ofNat (48 + n) else Char.ofNat (55 + n)

/-- How one byte is written. -/
def encodeByte (b : UInt8) : List Char :=
  if isPlain b then [Char.ofNat b.toNat]
  else if b = 0x20 then ['+']
  else ['%', upperHexDigit (b.toNat / 16), upperHexDigit (b.toNat % 16)]

/-- How a name or value is written. -/
def encode (s : String) : List Char :=
  (Utf8.encode s).flatMap encodeByte

/-- The pair that a piece of a query spells: the first `=` ends the name. -/
def parsePair (piece : List Char) : String × String :=
  (decode (piece.takeWhile (· ≠ '=')), decode ((piece.dropWhile (· ≠ '=')).drop 1))

/-- The pairs of a query in order. -/
def parse (query : List Char) : List (String × String) :=
  ((Text.split '&' query).filter (· ≠ [])).map parsePair

/-- How a pair is written. -/
def renderPair (pair : String × String) : List Char :=
  encode pair.1 ++ '=' :: encode pair.2

/-- The query with the given pairs. -/
def render (pairs : List (String × String)) : List Char :=
  Text.join '&' (pairs.map renderPair)

end Turnstile.Form
