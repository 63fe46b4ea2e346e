/-!
# Byte strings

Everything that is signed, hashed or sent is a list of bytes. This file names that type and gives
its two fixed spellings: lowercase hexadecimal text, and eight bytes holding a 64-bit number with
the most significant byte first.

## Main definitions

- `Bytes` — a finite string of bytes
- `Bytes.hex`, `Bytes.ofHex?` — two hexadecimal digits per byte
- `Bytes.ofNat64`, `Bytes.toNat` — big-endian numbers
-/

namespace Turnstile

/-- A finite string of bytes. -/
abbrev Bytes := List UInt8

namespace Bytes

/-- The lowercase hexadecimal digit of a number below sixteen. -/
def hexDigit (n : Nat) : Char :=
  if n < 10 then Char.ofNat (48 + n) else Char.ofNat (87 + n)

/-- The value of a hexadecimal digit of either case. -/
def hexValue? (c : Char) : Option Nat :=
  if '0' ≤ c ∧ c ≤ '9' then some (c.toNat - 48)
  else if 'a' ≤ c ∧ c ≤ 'f' then some (c.toNat - 87)
  else if 'A' ≤ c ∧ c ≤ 'F' then some (c.toNat - 55)
  else none

/-- The two lowercase digits of one byte. -/
def hexPair (b : UInt8) : List Char :=
  [hexDigit (b.toNat / 16), hexDigit (b.toNat % 16)]

/-- Two lowercase hexadecimal digits per byte. -/
def hex (bs : Bytes) : String :=
  String.ofList (bs.flatMap hexPair)

/-- Reads pairs of hexadecimal digits; a digit left over or any other character is refused. -/
def ofHexChars? : List Char → Option Bytes
  | [] => some []
  | h :: l :: rest => do
    let high ← hexValue? h
    let low ← hexValue? l
    return UInt8.ofNat (high * 16 + low) :: (← ofHexChars? rest)
  | [_] => none

/-- Reads pairs of hexadecimal digits. -/
def ofHex? (s : String) : Option Bytes :=
  ofHexChars? s.toList

/-- The number that a byte string spells with its most significant byte first. -/
def toNat (bs : Bytes) : Nat :=
  bs.foldl (fun n b => n * 256 + b.toNat) 0

/-- The lowest `width` bytes of a number, most significant first. -/
def ofNat (width n : Nat) : Bytes :=
  match width with
  | 0 => []
  | w + 1 => UInt8.ofNat (n / Nat.pow 256 w % 256) :: ofNat w n

/-- The eight bytes of a number modulo `2 ^ 64`, most significant first. -/
def ofNat64 (n : Nat) : Bytes :=
  ofNat 8 n

/-- A byte made from a number that fits has that number. -/
theorem toNat_byte {n : Nat} (hn : n < 256) : (UInt8.ofNat n).toNat = n :=
  UInt8.toNat_ofNat_of_lt' hn

@[simp] theorem length_ofNat (width n : Nat) : (ofNat width n).length = width := by
  induction width with
  | zero => rfl
  | succ w ih => simp [ofNat, ih]

end Bytes

end Turnstile
