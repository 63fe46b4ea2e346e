import Turnstile.Bytes
import Turnstile.Text.Hidden

/-!
# Quoted text

A text in quotes, so that it can be told exactly where it stands among other text. Quotes and
backslashes are escaped, four control characters have letters, and whatever else has no shape of its
own is spelled by its number.

## Main definitions

- `Text.quoteChar` — one character between quotes
- `Text.quoted` — the quoted text
-/

namespace Turnstile.Text

/-- The spelling of a character by its number in hexadecimal. -/
def byNumber (c : Char) : List Char :=
  '\\' :: 'u' :: '\x7b' :: Nat.toDigits 16 c.toNat ++ ['\x7d']

/-- One character between quotes. -/
def quoteChar (c : Char) : List Char :=
  if c = '"' then ['\\', '"']
  else if c = '\\' then ['\\', '\\']
  else if c = '\t' then ['\\', 't']
  else if c = '\r' then ['\\', 'r']
  else if c = '\n' then ['\\', 'n']
  else if c.toNat = 0 then ['\\', '0']
  else if isHidden c then byNumber c
  else [c]

/-- A text in quotes. -/
def quoted (s : String) : List Char :=
  '"' :: s.toList.flatMap quoteChar ++ ['"']

end Turnstile.Text
