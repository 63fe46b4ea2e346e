/-!
# Blanks

The characters with the Unicode property `White_Space`, and cutting them off the ends of a text.

## Main definitions

- `Text.isBlank` — the property
- `Text.trimStart`, `Text.trimEnd`, `Text.trim`
-/

namespace Turnstile.Text

/-- The characters with the Unicode property `White_Space`. -/
def isBlank (c : Char) : Bool :=
  let n := c.toNat
  (0x09 ≤ n && n ≤ 0x0D) || n == 0x20 || n == 0x85 || n == 0xA0 || n == 0x1680
    || (0x2000 ≤ n && n ≤ 0x200A) || n == 0x2028 || n == 0x2029 || n == 0x202F || n == 0x205F
    || n == 0x3000

/-- Drops the blanks in front. -/
def trimStart (s : List Char) : List Char :=
  s.dropWhile isBlank

/-- Drops the blanks behind. -/
def trimEnd (s : List Char) : List Char :=
  (s.reverse.dropWhile isBlank).reverse

/-- Drops the blanks on both ends. -/
def trim (s : List Char) : List Char :=
  trimEnd (trimStart s)

end Turnstile.Text
