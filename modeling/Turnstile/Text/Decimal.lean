import Turnstile.Text.Digits

/-!
# Decimal fractions

Numbers that are spelled with a point or an exponent, and whether a floating point number of 64 bits
is near enough to hold them.

## Main definitions

- `Decimal` — a number in decimal notation
- `Decimal.ofChars?` — reading one
- `Decimal.isFinite` — whether rounding it gives a number and not infinity
-/

namespace Turnstile

/-- A number without its sign: an integer times a power of ten. -/
structure Decimal where
  digits : Nat
  exponent : Int
deriving DecidableEq, Repr

namespace Decimal

/-- A text without the sign in front of it, which may be missing, and whether it is a minus. -/
def takeSign : List Char → Bool × List Char
  | '-' :: rest => (true, rest)
  | '+' :: rest => (false, rest)
  | cs => (false, cs)

/-- The exponent that a text spells after its mark; no text at all is no exponent. -/
def exponent? : List Char → Option Int
  | [] => some 0
  | c :: rest =>
    if c = 'e' ∨ c = 'E' then do
      let (negative, digits) := takeSign rest
      let n ← Text.readDigits? digits
      return if negative then -n else n
    else none

/-- Reads a number in decimal notation: digits, at least one of them, with or without a point among
or beside them, and perhaps an exponent. A sign may stand in front. -/
def ofChars? (cs : List Char) : Option Decimal := do
  let (_, cs) := takeSign cs
  let whole := cs.takeWhile Char.isDigit
  let rest := cs.drop whole.length
  let fraction := if rest.head? = some '.' then (rest.drop 1).takeWhile Char.isDigit else []
  let rest := if rest.head? = some '.' then rest.drop (1 + fraction.length) else rest
  let digits ← Text.readDigits? (whole ++ fraction)
  return ⟨digits, (← exponent? rest) - fraction.length⟩

/-- The least number that rounds to infinity: halfway between the greatest finite number and the
next power of two. -/
def overflow : Nat := (Nat.pow 2 54 - 1) * Nat.pow 2 970

/-- Whether rounding a number gives no infinity. Numbers of very many or very few places are told by
their number of places alone. -/
def isFinite (d : Decimal) : Bool :=
  let places : Int := (Nat.toDigits 10 d.digits).length + d.exponent
  if d.digits = 0 ∨ places < 309 then true
  else if places > 310 then false
  else if 0 ≤ d.exponent then d.digits * Nat.pow 10 d.exponent.toNat < overflow
  else d.digits < overflow * Nat.pow 10 (-d.exponent).toNat

end Decimal

end Turnstile
