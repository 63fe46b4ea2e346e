import Turnstile.Net.Form
import Turnstile.Text.Split

/-!
# Route patterns

A route pattern such as `/posts/{id}` is a path in which a segment in braces stands for any
segment that is not empty. Patterns are matched against whole paths.

## Main definitions

- `Pattern.match?` — the parameters under which a path matches a pattern
- `Pattern.decodePath` — the path that handlers are found by
-/

namespace Turnstile.Pattern

/-- The name of a parameter, if a segment of a pattern is one. -/
def parameter? (segment : List Char) : Option (List Char) :=
  match segment with
  | '\x7b' :: rest => if rest.getLast? = some '\x7d' then some rest.dropLast else none
  | _ => none

/-- Matches segments one by one and collects the parameters. -/
def matchSegments? : List (List Char) → List (List Char) → Option (List (String × String))
  | [], [] => some []
  | p :: ps, s :: ss =>
    match parameter? p with
    | some name =>
      if s = [] then none
      else (matchSegments? ps ss).map ((String.ofList name, String.ofList s) :: ·)
    | none => if p = s then matchSegments? ps ss else none
  | _, _ => none

/-- The parameters under which a path matches a pattern. -/
def match? (pattern path : String) : Option (List (String × String)) :=
  matchSegments? (Text.split '/' pattern.toList) (Text.split '/' path.toList)

/-- Bytes that stay percent-encoded in a path: the percent sign, the slash and the plus sign. -/
def staysEncoded (b : UInt8) : Bool :=
  b = 0x25 || b = 0x2F || b = 0x2B

/-- The bytes of a path in which `%` with two hexadecimal digits stands for a byte, but for those
that stay encoded. -/
def percentDecode : Bytes → Bytes
  | [] => []
  | [b] => [b]
  | [b, c] => [b, c]
  | b :: h :: l :: rest =>
    match Bytes.hexValue? (Char.ofNat h.toNat), Bytes.hexValue? (Char.ofNat l.toNat) with
    | some high, some low =>
      let decoded := UInt8.ofNat (high * 16 + low)
      if b = 0x25 ∧ !staysEncoded decoded then decoded :: percentDecode rest
      else b :: percentDecode (h :: l :: rest)
    | _, _ => b :: percentDecode (h :: l :: rest)

/-- The path that handlers are found by. -/
def decodePath (path : String) : String :=
  Utf8.decodeLenient (percentDecode (Utf8.encode path))

end Turnstile.Pattern
