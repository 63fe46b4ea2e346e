import Turnstile.Text.Utf8

/-!
# Header fields

The header fields of a request: names that differ only in case are one name, and values are bytes,
which need not be text.

## Main definitions

- `HeaderField`, `Headers` — fields in the order in which they were sent
- `HeaderField.read?` — a field with a name and value that HTTP allows
- `Headers.text?` — the value of the first field with a name, if it is plain text
-/

namespace Turnstile

/-- Whether a character may stand in the name of a header field. -/
def isTokenChar (c : Char) : Bool :=
  c.isAlphanum || "!#$%&'*+-.^_`|~".toList.contains c

/-- The name by which fields are compared, if HTTP allows it. -/
def headerName? (name : String) : Option String :=
  if name ≠ "" ∧ name.toList.all isTokenChar then
    some (String.ofList (name.toList.map Char.toLower))
  else none

/-- A header field, its name in lowercase. -/
structure HeaderField where
  name : String
  value : Bytes
deriving DecidableEq, Repr

/-- The header fields of a request in order. -/
abbrev Headers := List HeaderField

namespace HeaderField

/-- Whether a byte may stand in a value: all but control characters, of which a tab is allowed. -/
def isValueByte (b : UInt8) : Bool :=
  (0x20 ≤ b && b ≠ 0x7F) || b = 0x09

/-- A field with a name and value that HTTP allows. -/
def read? (name : String) (value : Bytes) : Option HeaderField := do
  let name ← headerName? name
  if value.all isValueByte then return ⟨name, value⟩ else none

/-- The value as text, if it holds nothing but ASCII. -/
def text? (f : HeaderField) : Option String :=
  if f.value.all (· < 0x7F) then some (Utf8.decodeLenient f.value) else none

end HeaderField

namespace Headers

/-- The value of the first field with a name, if it is plain text. -/
def text? (hs : Headers) (name : String) : Option String := do
  let name ← headerName? name
  let field ← hs.find? fun f => f.name = name
  field.text?

end Headers

end Turnstile
