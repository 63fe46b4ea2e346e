import Turnstile.Bytes

/-!
# Base64

The standard base64 alphabet with mandatory padding. Reading is strict: it accepts exactly what
writing produces, so a group may be padded only at the very end, and the bits that padding leaves
unused have to be zero.

## Main definitions

- `Base64.encode` — four digits for every three bytes, the last group padded
- `Base64.decode?` — the strict reader
-/

namespace Turnstile.Base64

/-- The digit of a number below 64. -/
def digit (n : Nat) : Char :=
  if n < 26 then Char.ofNat (65 + n)
  else if n < 52 then Char.ofNat (71 + n)
  else if n < 62 then Char.ofNat (n - 4)
  else if n = 62 then '+'
  else '/'

/-- The value of a digit; padding and all other characters have none. -/
def value? (c : Char) : Option Nat :=
  if 'A' ≤ c ∧ c ≤ 'Z' then some (c.toNat - 65)
  else if 'a' ≤ c ∧ c ≤ 'z' then some (c.toNat - 71)
  else if '0' ≤ c ∧ c ≤ '9' then some (c.toNat + 4)
  else if c = '+' then some 62
  else if c = '/' then some 63
  else none

/-- Four digits for every three bytes; a last group of one or two bytes is padded with `=`. -/
def encode : Bytes → List Char
  | [] => []
  | [a] => [digit (a.toNat / 4), digit (a.toNat % 4 * 16), '=', '=']
  | [a, b] =>
    [digit (a.toNat / 4), digit (a.toNat % 4 * 16 + b.toNat / 16), digit (b.toNat % 16 * 4), '=']
  | a :: b :: c :: rest =>
    digit (a.toNat / 4) :: digit (a.toNat % 4 * 16 + b.toNat / 16)
      :: digit (b.toNat % 16 * 4 + c.toNat / 64) :: digit (c.toNat % 64) :: encode rest

/-- The byte of a padded group with two digits; the four unused bits have to be zero. -/
def decodeOne? (v w : Nat) : Option Bytes :=
  if w % 16 = 0 then some [UInt8.ofNat (v * 4 + w / 16)] else none

/-- The bytes of a padded group with three digits; the two unused bits have to be zero. -/
def decodeTwo? (v w x : Nat) : Option Bytes :=
  if x % 4 = 0 then some [UInt8.ofNat (v * 4 + w / 16), UInt8.ofNat (w % 16 * 16 + x / 4)]
  else none

/-- Reads groups of four characters; only the last group may be padded. -/
def decode? : List Char → Option Bytes
  | [] => some []
  | p :: q :: r :: s :: rest => do
    let v ← value? p
    let w ← value? q
    if r = '=' ∧ s = '=' ∧ rest = [] then decodeOne? v w
    else
      let x ← value? r
      if s = '=' ∧ rest = [] then decodeTwo? v w x
      else
        let y ← value? s
        return UInt8.ofNat (v * 4 + w / 16) :: UInt8.ofNat (w % 16 * 16 + x / 4)
          :: UInt8.ofNat (x % 4 * 64 + y) :: (← decode? rest)
  | _ => none

end Turnstile.Base64
