import Turnstile.Data.Tree
import Turnstile.Text.Decimal
import Turnstile.Yaml.Document

/-!
# What YAML scalars mean

A plain scalar is null, a truth value, a number or a text, whichever its spelling says. Only the
spellings of YAML's core are known, and `0b` for binary numbers: `yes` is a text, and so is a number
with zeros in front. The other styles spell texts, unless a tag says otherwise.

Numbers that fit in 64 bits can be read. Larger ones are refused up to 128 bits, and are fractions
beyond.

## Main definitions

- `Yaml.isNull`, `Yaml.bool?`, `Yaml.natural?`, `Yaml.integer?`, `Yaml.isFraction` — the spellings
- `Yaml.plainMeaning?`, `Yaml.scalarMeaning?` — the value that a scalar means
-/

namespace Turnstile.Yaml

/-! ### Spellings -/

/-- Whether a text spells null. -/
def isNull (s : String) : Bool :=
  ["null", "Null", "NULL", "~"].contains s

/-- The truth value that a text spells. -/
def bool? (s : String) : Option Bool :=
  if ["true", "True", "TRUE"].contains s then some true
  else if ["false", "False", "FALSE"].contains s then some false
  else none

/-- Whether a text is a number but for zeros in front of it. -/
def hasLeadingZeros (cs : List Char) : Bool :=
  let (_, digits) := Decimal.takeSign cs
  digits.length > 1 && digits.head? = some '0' && digits.all Char.isDigit

/-- The base that a mark in front of digits names. -/
def base? (mark : Char) : Option Nat :=
  match mark with
  | 'x' => some 16
  | 'o' => some 8
  | 'b' => some 2
  | _ => none

/-- The number that digits of a base spell. -/
def inBase? (base : Nat) (cs : List Char) : Option Nat := do
  let values ← cs.mapM Bytes.hexValue?
  if values ≠ [] ∧ values.all (· < base) then
    return values.foldl (fun n d => n * base + d) 0
  else none

/-- The number that a text without sign spells, with or without the mark of a base. -/
def magnitude? (cs : List Char) : Option Nat :=
  match cs with
  | '0' :: mark :: rest =>
    match base? mark with
    | some base => inBase? base rest
    | none => if hasLeadingZeros cs then none else Text.readDigits? cs
  | _ => Text.readDigits? cs

/-- The natural number that a text spells; a plus sign may stand in front. -/
def natural? (s : String) : Option Nat :=
  match s.toList with
  | '+' :: rest => magnitude? rest
  | cs => magnitude? cs

/-- The integer that a text spells. -/
def integer? (s : String) : Option Int :=
  match s.toList with
  | '-' :: rest => (magnitude? rest).map fun n => -n
  | _ => (natural? s).map Int.ofNat

/-- The names of the infinities and of what is not a number. -/
def specialFractions : List String :=
  [".inf", ".Inf", ".INF", "+.inf", "+.Inf", "+.INF", "-.inf", "-.Inf", "-.INF", ".nan", ".NaN",
    ".NAN"]

/-- Whether a text spells a number in floating point. -/
def isFraction (s : String) : Bool :=
  specialFractions.contains s || (Decimal.ofChars? s.toList).any Decimal.isFinite

/-! ### Meanings -/

/-- Whether an integer fits in 64 bits, with or without sign. -/
def fits64 (n : Int) : Bool := -Int.pow 2 63 ≤ n && n < Int.pow 2 64

/-- Whether an integer fits in 128 bits, with or without sign. -/
def fits128 (n : Int) : Bool := -Int.pow 2 127 ≤ n && n < Int.pow 2 128

/-- What a text means that is no integer, or none that fits. -/
def fractionOrText (s : String) : Data :=
  if !hasLeadingZeros s.toList && isFraction s then .real else .text s

/-- What a plain scalar means. -/
def plainMeaning? (s : String) : Option Data :=
  if s = "" || isNull s then some .null
  else match bool? s with
    | some b => some (.bool b)
    | none =>
      match integer? s with
      | none => some (fractionOrText s)
      | some n =>
        if fits64 n then some (.int n)
        else if fits128 n then none
        else some (fractionOrText s)

/-- The tag of a type that YAML itself knows. -/
def coreTag (name : String) : String := "tag:yaml.org,2002:" ++ name

/-- The name in a tag of the program's own. -/
def localTag? (tag : Option String) : Option String :=
  match tag.map String.toList with
  | some ('!' :: name) => some (String.ofList name)
  | _ => none

/-- What a scalar means. The tags of truth values, numbers and null hold in every style, and what
they tag has to be spelled as such; any other tag makes a text. A scalar with a tag of the program's
own has no meaning by itself. -/
def scalarMeaning? (tag : Option String) (style : Style) (s : String) : Option Data :=
  match tag with
  | none => if style = .plain then plainMeaning? s else some (.text s)
  | some t =>
    if t = coreTag "bool" then (bool? s).map .bool
    else if t = coreTag "int" then ((integer? s).filter fits64).map .int
    else if t = coreTag "float" then (if isFraction s then some .real else none)
    else if t = coreTag "null" then (if isNull s then some .null else none)
    else if (localTag? tag).isSome then none
    else some (.text s)

end Turnstile.Yaml
