import Turnstile.Json.Value
import Turnstile.Text.Utf8

/-!
# Reading JSON

A strict reader of JSON documents given as bytes: one value with blanks around it and
nothing else. Numbers are not evaluated, so none is too large, and values may nest to any depth.

A string literal is first taken apart into pieces — plain bytes and UTF-16 units — which are put
together to a text afterwards. A literal whose pieces make no text still has its place in a
document; it is then `Json.mangled`.

## Main definitions

- `Json.Reader.Piece`, `Json.Reader.pieces?` — the pieces of a string literal
- `Json.Reader.assemble?` — the bytes that pieces make
- `Json.read?` — a whole document
-/

namespace Turnstile.Json

namespace Reader

/-! ### Strings -/

/-- A piece of a string literal. -/
inductive Piece where
  | byte (b : UInt8)
  | unit (n : Nat)
deriving DecidableEq, Repr

/-- The UTF-16 unit spelled by four hexadecimal digits. -/
def unit? (cs : Bytes) : Option Nat := do
  match ← (cs.map fun b => Char.ofNat b.toNat).mapM Bytes.hexValue? with
  | [p, q, r, s] => return ((p * 16 + q) * 16 + r) * 16 + s
  | _ => none

/-- The byte that a one-letter escape stands for. -/
def shortEscape? (b : UInt8) : Option UInt8 :=
  match Char.ofNat b.toNat with
  | '"' => some 0x22
  | '\\' => some 0x5C
  | '/' => some 0x2F
  | 'b' => some 0x08
  | 'f' => some 0x0C
  | 'n' => some 0x0A
  | 'r' => some 0x0D
  | 't' => some 0x09
  | _ => none

/-- The pieces of a string literal up to its closing quote, and what follows. -/
def pieces? : Bytes → Option (List Piece × Bytes)
  | [] => none
  | b :: rest =>
    if b = 0x22 then some ([], rest)
    else if b < 0x20 then none
    else if b = 0x5C then
      match rest with
      | [] => none
      | e :: rest' =>
        if e = 0x75 then
          match rest' with
          | p :: q :: r :: s :: rest'' => do
            let n ← unit? [p, q, r, s]
            let (pieces, after) ← pieces? rest''
            return (.unit n :: pieces, after)
          | _ => none
        else do
          let c ← shortEscape? e
          let (pieces, after) ← pieces? rest'
          return (.byte c :: pieces, after)
    else do
      let (pieces, after) ← pieces? rest
      return (.byte b :: pieces, after)

/-- A unit that begins a surrogate pair. -/
def isHigh (n : Nat) : Bool := 0xD800 ≤ n && n ≤ 0xDBFF

/-- A unit that ends a surrogate pair. -/
def isLow (n : Nat) : Bool := 0xDC00 ≤ n && n ≤ 0xDFFF

/-- The bytes that pieces make; none if half a surrogate pair stands among them. -/
def assemble? : List Piece → Option Bytes
  | [] => some []
  | .byte b :: rest => (assemble? rest).map (b :: ·)
  | .unit n :: rest =>
    if isHigh n then
      match rest with
      | .unit m :: rest' =>
        if isLow m then
          (assemble? rest').map
            (String.utf8EncodeChar
              (Char.ofNat (0x10000 + (n - 0xD800) * 0x400 + (m - 0xDC00))) ++ ·)
        else none
      | _ => none
    else if isLow n then none
    else (assemble? rest).map (String.utf8EncodeChar (Char.ofNat n) ++ ·)

/-- The text that pieces spell. -/
def textOf? (pieces : List Piece) : Option String := do
  Utf8.decode? (← assemble? pieces)

/-! ### Numbers -/

/-- Whether a byte is a decimal digit. -/
def isDigit (b : UInt8) : Bool := 0x30 ≤ b && b ≤ 0x39

/-- One or more digits, and what follows. -/
def digits? (bs : Bytes) : Option (Bytes × Bytes) :=
  let digits := bs.takeWhile isDigit
  if digits = [] then none else some (digits, bs.dropWhile isDigit)

/-- The digits before the point: a leading zero stands alone. -/
def whole? (bs : Bytes) : Option (Bytes × Bytes) := do
  let (digits, rest) ← digits? bs
  if digits.length > 1 ∧ digits.head? = some 0x30 then none else return (digits, rest)

/-- A point and digits, if there is a point. -/
def fraction? : Bytes → Option (Bytes × Bytes)
  | [] => some ([], [])
  | b :: rest =>
    if b = 0x2E then (digits? rest).map fun (digits, after) => (b :: digits, after)
    else some ([], b :: rest)

/-- A mark, a sign and digits, if there is a mark of an exponent. -/
def exponent? : Bytes → Option (Bytes × Bytes)
  | [] => some ([], [])
  | b :: rest =>
    if b = 0x65 ∨ b = 0x45 then
      let sign := (rest.take 1).filter fun s => s = 0x2B ∨ s = 0x2D
      (digits? (rest.drop sign.length)).map fun (digits, after) => (b :: sign ++ digits, after)
    else some ([], b :: rest)

/-- The spelling of a number and what follows. -/
def number? (bs : Bytes) : Option (String × Bytes) := do
  let sign := (bs.take 1).filter (· = 0x2D)
  let (whole, bs) ← whole? (bs.drop sign.length)
  let (fraction, bs) ← fraction? bs
  let (exponent, bs) ← exponent? bs
  return (Utf8.decodeLenient (sign ++ whole ++ fraction ++ exponent), bs)

/-! ### Values -/

/-- Whether a byte is a blank between tokens. -/
def isBlank (b : UInt8) : Bool := b = 0x20 || b = 0x0A || b = 0x09 || b = 0x0D

/-- Drops blanks. -/
def skipBlanks (bs : Bytes) : Bytes := bs.dropWhile isBlank

/-- Drops one given byte after any blanks. -/
def expect? (b : UInt8) (bs : Bytes) : Option Bytes :=
  match skipBlanks bs with
  | c :: rest => if c = b then some rest else none
  | [] => none

/-- Drops a keyword. -/
def keyword? (word : String) (v : Json) (bs : Bytes) : Option (Json × Bytes) :=
  let spelled := Utf8.encode word
  if bs.take spelled.length = spelled then some (v, bs.drop spelled.length) else none

/-- A key with its colon, and what follows. -/
def key? (bs : Bytes) : Option (Option String × Bytes) := do
  let (pieces, bs) ← pieces? (← expect? 0x22 bs)
  let bs ← expect? 0x3A bs
  return (textOf? pieces, bs)

mutual

/-- A value after any blanks, and what follows it. -/
def value? (fuel : Nat) (bs : Bytes) : Option (Json × Bytes) :=
  match fuel with
  | 0 => none
  | fuel + 1 =>
    match skipBlanks bs with
    | [] => none
    | b :: rest =>
      match Char.ofNat b.toNat with
      | '"' => (pieces? rest).map fun (pieces, after) =>
        (match textOf? pieces with
          | some s => .text s
          | none => .mangled, after)
      | '[' =>
        match expect? 0x5D rest with
        | some after => some (.array [], after)
        | none => (items? fuel rest).map fun (items, after) => (.array items, after)
      | '\x7b' =>
        match expect? 0x7D rest with
        | some after => some (.object [], after)
        | none => (members? fuel rest).map fun (members, after) => (.object members, after)
      | 't' => keyword? "true" (.bool true) (b :: rest)
      | 'f' => keyword? "false" (.bool false) (b :: rest)
      | 'n' => keyword? "null" .null (b :: rest)
      | _ => (number? (b :: rest)).map fun (digits, after) => (.number digits, after)

/-- One or more items up to the closing bracket, and what follows it. -/
def items? (fuel : Nat) (bs : Bytes) : Option (List Json × Bytes) :=
  match fuel with
  | 0 => none
  | fuel + 1 => do
    let (v, bs) ← value? fuel bs
    match expect? 0x5D bs with
    | some after => return ([v], after)
    | none =>
      let (items, after) ← items? fuel (← expect? 0x2C bs)
      return (v :: items, after)

/-- One or more members up to the closing brace, and what follows it. -/
def members? (fuel : Nat) (bs : Bytes) : Option (List (Option String × Json) × Bytes) :=
  match fuel with
  | 0 => none
  | fuel + 1 => do
    let (key, bs) ← key? bs
    let (v, bs) ← value? fuel bs
    match expect? 0x7D bs with
    | some after => return ([(key, v)], after)
    | none =>
      let (members, after) ← members? fuel (← expect? 0x2C bs)
      return ((key, v) :: members, after)

end

end Reader

/-- Reads a document of one value. Every value takes at least one byte, so a number of steps equal
to twice the length of the document is enough. -/
def read? (bs : Bytes) : Option Json := do
  let (v, rest) ← Reader.value? (2 * bs.length + 1) bs
  if Reader.skipBlanks rest = [] then return v else none

end Turnstile.Json
