import Turnstile.Bytes
import Turnstile.Json.Value

/-!
# Writing JSON

The compact written form of a value: no blanks, members in order, and in strings only what has to be
escaped is.

## Main definitions

- `Json.escape` — the content of a string literal
- `Json.render` — the written form of a value
-/

namespace Turnstile.Json

/-- One character inside a string literal. Quotes, backslashes and control characters are escaped;
those without an escape of their own are spelled by number. -/
def escapeChar (c : Char) : List Char :=
  if c = '"' then ['\\', '"']
  else if c = '\\' then ['\\', '\\']
  else if c = '\x08' then ['\\', 'b']
  else if c = '\x0c' then ['\\', 'f']
  else if c = '\n' then ['\\', 'n']
  else if c = '\r' then ['\\', 'r']
  else if c = '\t' then ['\\', 't']
  else if c.toNat < 0x20 then
    ['\\', 'u', '0', '0', Bytes.hexDigit (c.toNat / 16), Bytes.hexDigit (c.toNat % 16)]
  else [c]

/-- The content of a string literal. -/
def escape (s : List Char) : List Char :=
  s.flatMap escapeChar

/-- A string literal. -/
def literal (s : List Char) : List Char :=
  '"' :: escape s ++ ['"']

/-- The literal of a key or string that spells no text. -/
def mangledLiteral : List Char := literal ['\uFFFD']

mutual

/-- The written form of a value. -/
def renderChars : Json → List Char
  | .null => "null".toList
  | .bool true => "true".toList
  | .bool false => "false".toList
  | .number digits => digits.toList
  | .text s => literal s.toList
  | .mangled => mangledLiteral
  | .array items => '[' :: renderItems items ++ [']']
  | .object members => '\x7b' :: renderMembers members ++ ['\x7d']

/-- Items with commas between them. -/
def renderItems : List Json → List Char
  | [] => []
  | [v] => renderChars v
  | v :: rest => renderChars v ++ ',' :: renderItems rest

/-- Members with commas between them. -/
def renderMembers : List (Option String × Json) → List Char
  | [] => []
  | [(key, v)] => renderKey key ++ ':' :: renderChars v
  | (key, v) :: rest => renderKey key ++ ':' :: renderChars v ++ ',' :: renderMembers rest

/-- The literal of a key. -/
def renderKey : Option String → List Char
  | some key => literal key.toList
  | none => mangledLiteral

end

/-- The written form of a value. -/
def render (v : Json) : String :=
  String.ofList v.renderChars

end Turnstile.Json
