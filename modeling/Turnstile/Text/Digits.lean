/-!
# Decimal numbers

Writing a number with a least number of digits, and reading one that has to stay within a limit. The
reader names the first thing that is wrong, counted from the left.

## Main definitions

- `Text.padded` — decimal digits with zeros in front
- `Text.readDigits?` — the number that a run of digits spells
- `NumberFault`, `Text.readBounded` — a limited number and why a text is not one
-/

namespace Turnstile

/-- Why a text is not a number within its limit. -/
inductive NumberFault where
  | empty
  | invalidDigit
  | tooLarge
deriving DecidableEq, Repr

/-- The wording of a number fault. -/
def NumberFault.message : NumberFault → String
  | .empty => "cannot parse integer from empty string"
  | .invalidDigit => "invalid digit found in string"
  | .tooLarge => "number too large to fit in target type"

namespace Text

/-- The decimal digits of a number, filled with zeros in front up to `width`. -/
def padded (width n : Nat) : List Char :=
  let digits := Nat.toDigits 10 n
  List.replicate (width - digits.length) '0' ++ digits

/-- The value of a decimal digit. -/
def digitValue (c : Char) : Nat :=
  c.toNat - 48

/-- The number spelled by a list of decimal digits, most significant first. -/
def digitsValue (cs : List Char) : Nat :=
  cs.foldl (fun n c => n * 10 + digitValue c) 0

/-- The number that a text of one or more decimal digits spells. -/
def readDigits? (cs : List Char) : Option Nat :=
  if cs ≠ [] ∧ cs.all Char.isDigit then some (digitsValue cs) else none

/-- Reads on after the digits with value `n`, failing at the first fault from the left. -/
def readBoundedFrom (limit n : Nat) : List Char → Except NumberFault Nat
  | [] => .ok n
  | c :: rest =>
    if !c.isDigit then .error .invalidDigit
    else if n * 10 + digitValue c > limit then .error .tooLarge
    else readBoundedFrom limit (n * 10 + digitValue c) rest

/-- Reads a number of at most `limit`; one plus sign may stand before its digits. -/
def readBounded (limit : Nat) : List Char → Except NumberFault Nat
  | [] => .error .empty
  | ['+'] => .error .invalidDigit
  | '+' :: rest => readBoundedFrom limit 0 rest
  | cs => readBoundedFrom limit 0 cs

end Text

end Turnstile
