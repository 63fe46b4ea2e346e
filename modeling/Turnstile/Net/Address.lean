import Turnstile.Bytes
import Turnstile.Text.Digits

/-!
# Internet addresses

Addresses of the Internet protocol, versions 4 and 6, their canonical text (for version 6 in small
letters, with the first longest run of zero groups left out), and a strict reader. The reader
accepts every usual spelling of a version 6 address: any case, leading zeros up to four digits, one
`::`, and a version 4 address in place of the last two groups.

## Main definitions

- `Address` — an address
- `Address.render` — its canonical text
- `Address.read?` — the reader
- `Address.isInternal` — whether it can only be reached from inside a network
-/

namespace Turnstile

/-- An address of version 4, by its four bytes. -/
structure AddressV4 where
  a : UInt8
  b : UInt8
  c : UInt8
  d : UInt8
deriving DecidableEq, Repr

/-- An address of version 6, by its eight groups of 16 bits. -/
structure AddressV6 where
  groups : List UInt16
  length_groups : groups.length = 8
deriving DecidableEq, Repr

/-- An Internet address. -/
inductive Address where
  | v4 (address : AddressV4)
  | v6 (address : AddressV6)
deriving DecidableEq, Repr

namespace AddressV4

/-- The four bytes as decimal numbers with points between them. -/
def chars (x : AddressV4) : List Char :=
  Nat.toDigits 10 x.a.toNat ++ '.' :: Nat.toDigits 10 x.b.toNat ++ '.' :: Nat.toDigits 10 x.c.toNat
    ++ '.' :: Nat.toDigits 10 x.d.toNat

/-- Whether the address is a loopback, private, link-local or unspecified one. -/
def isInternal (x : AddressV4) : Bool :=
  x.a = 127 || x.a = 10 || (x.a = 172 && x.b.toNat / 16 = 1) || (x.a = 192 && x.b = 168)
    || (x.a = 169 && x.b = 254) || (x.a = 0 && x.b = 0 && x.c = 0 && x.d = 0)

/-- A byte in decimal without leading zeros, and what follows it. -/
def readByte? (cs : List Char) : Option (UInt8 × List Char) :=
  let digits := cs.takeWhile Char.isDigit
  let n := Text.digitsValue digits
  if digits = [] ∨ digits.length > 3 ∨ n > 255 ∨ (digits.length > 1 ∧ digits.head? = some '0') then
    none
  else some (UInt8.ofNat n, cs.dropWhile Char.isDigit)

/-- A byte after a point, and what follows it. -/
def readPointByte? : List Char → Option (UInt8 × List Char)
  | '.' :: rest => readByte? rest
  | _ => none

/-- An address at the front of a text, and what follows it. -/
def readFront? (cs : List Char) : Option (AddressV4 × List Char) := do
  let (a, cs) ← readByte? cs
  let (b, cs) ← readPointByte? cs
  let (c, cs) ← readPointByte? cs
  let (d, cs) ← readPointByte? cs
  return (⟨a, b, c, d⟩, cs)

/-- The two groups that an address takes up inside one of version 6. -/
def groups (x : AddressV4) : List UInt16 :=
  [UInt16.ofNat (x.a.toNat * 256 + x.b.toNat), UInt16.ofNat (x.c.toNat * 256 + x.d.toNat)]

end AddressV4

namespace AddressV6

/-- The version 4 address that is mapped into version 6 behind `::ffff:`. -/
def mapped? (x : AddressV6) : Option AddressV4 :=
  match x.groups with
  | [0, 0, 0, 0, 0, 0xFFFF, g, h] =>
    some ⟨UInt8.ofNat (g.toNat / 256), UInt8.ofNat (g.toNat % 256), UInt8.ofNat (h.toNat / 256),
      UInt8.ofNat (h.toNat % 256)⟩
  | _ => none

/-- The lengths of the runs of zero groups that start at each place. -/
def zeroRuns : List UInt16 → List Nat
  | [] => []
  | g :: rest =>
    let runs := zeroRuns rest
    (if g = 0 then runs.headD 0 + 1 else 0) :: runs

/-- The place and length of the first longest run of zero groups. -/
def longestRun (groups : List UInt16) : Nat × Nat :=
  let runs := zeroRuns groups
  let most := runs.foldl max 0
  (runs.idxOf most, most)

/-- A group in hexadecimal without leading zeros. -/
def groupChars (g : UInt16) : List Char :=
  Nat.toDigits 16 g.toNat

/-- Groups with colons between them. -/
def joinGroups : List UInt16 → List Char
  | [] => []
  | [g] => groupChars g
  | g :: rest => groupChars g ++ ':' :: joinGroups rest

/-- The canonical text: a mapped address shows its version 4 form, and the first longest run of at
least two zero groups is left out. -/
def chars (x : AddressV6) : List Char :=
  match x.mapped? with
  | some y => "::ffff:".toList ++ y.chars
  | none =>
    let (start, count) := longestRun x.groups
    if count > 1 then
      joinGroups (x.groups.take start) ++ ':' :: ':' :: joinGroups (x.groups.drop (start + count))
    else joinGroups x.groups

/-- Whether the address is loopback, unspecified, unique local, link-local, or mapped from an
internal address of version 4. -/
def isInternal (x : AddressV6) : Bool :=
  let first := (x.groups.headD 0).toNat
  x.groups = [0, 0, 0, 0, 0, 0, 0, 1] || x.groups = [0, 0, 0, 0, 0, 0, 0, 0]
    || first / 512 = 0xFC00 / 512 || first / 64 = 0xFE80 / 64
    || (x.mapped?.map AddressV4.isInternal).getD false

/-- The value of hexadecimal digits. -/
def hexValue (cs : List Char) : Nat :=
  cs.foldl (fun n c => n * 16 + (Bytes.hexValue? c).getD 0) 0

/-- A group of one to four hexadecimal digits, and what follows it. -/
def readGroup? (cs : List Char) : Option (UInt16 × List Char) :=
  let digits := cs.takeWhile fun c => (Bytes.hexValue? c).isSome
  if digits = [] ∨ digits.length > 4 then none
  else some (UInt16.ofNat (hexValue digits), cs.drop digits.length)

/-- What stands before a group: nothing before the first one, a colon before the others. -/
def skipColon? (first : Bool) (cs : List Char) : Option (List Char) :=
  if first then some cs
  else
    match cs with
    | ':' :: rest => some rest
    | _ => none

/-- Up to `limit` groups, whether a version 4 address closed them, and what follows. Such an address
needs the room of two groups. -/
def readGroups (limit : Nat) (first : Bool) (cs : List Char) : List UInt16 × Bool × List Char :=
  match limit with
  | 0 => ([], false, cs)
  | room + 1 =>
    let embedded := if room = 0 then none else (skipColon? first cs).bind AddressV4.readFront?
    match embedded with
    | some (x, rest) => (x.groups, true, rest)
    | none =>
      match (skipColon? first cs).bind readGroup? with
      | some (g, rest) =>
        let (groups, closed, after) := readGroups room false rest
        (g :: groups, closed, after)
      | none => ([], false, cs)

/-- An address from its groups, if they are eight. -/
def ofGroups? (groups : List UInt16) : Option AddressV6 :=
  if h : groups.length = 8 then some ⟨groups, h⟩ else none

/-- An address at the front of a text, and what follows it. -/
def readFront? (cs : List Char) : Option (AddressV6 × List Char) :=
  let (front, closed, rest) := readGroups 8 true cs
  if front.length = 8 then (ofGroups? front).map (·, rest)
  else if closed then none
  else
    match rest with
    | ':' :: ':' :: rest' =>
      let (back, _, after) := readGroups (7 - front.length) true rest'
      let zeros := List.replicate (8 - front.length - back.length) 0
      (ofGroups? (front ++ zeros ++ back)).map (·, after)
    | _ => none

end AddressV6

namespace Address

/-- The canonical text of an address. -/
def chars : Address → List Char
  | .v4 x => x.chars
  | .v6 x => x.chars

/-- The canonical text of an address. -/
def render (x : Address) : String :=
  String.ofList x.chars

/-- Whether an address can never be that of a caller from outside. -/
def isInternal : Address → Bool
  | .v4 x => x.isInternal
  | .v6 x => x.isInternal

/-- Reads an address that is all of a text. -/
def readChars? (cs : List Char) : Option Address :=
  match AddressV4.readFront? cs with
  | some (x, rest) => if rest = [] then some (.v4 x) else none
  | none =>
    match AddressV6.readFront? cs with
    | some (x, rest) => if rest = [] then some (.v6 x) else none
    | none => none

/-- Reads an address. -/
def read? (s : String) : Option Address :=
  readChars? s.toList

/-- Whether a text is a colon and a port number. -/
def isPort : List Char → Bool
  | ':' :: digits => (Text.readDigits? digits).any (· ≤ 65535)
  | _ => false

/-- What follows a scope, if one stands at the front of a text: a percent sign and a number of at
most 32 bits. -/
def skipScope? : List Char → Option (List Char)
  | '%' :: cs =>
    let digits := cs.takeWhile Char.isDigit
    if (Text.readDigits? digits).any (· < Nat.pow 2 32) then some (cs.drop digits.length) else none
  | cs => some cs

/-- Reads the address of a connection's end, which has a port behind it; an address of version 6
stands in brackets, perhaps with its scope. -/
def readEndpoint? (s : String) : Option Address :=
  match s.toList with
  | '[' :: cs => do
    let (x, rest) ← AddressV6.readFront? cs
    match ← skipScope? rest with
    | ']' :: port => if isPort port then some (.v6 x) else none
    | _ => none
  | cs =>
    match AddressV4.readFront? cs with
    | some (x, port) => if isPort port then some (.v4 x) else none
    | none => none

end Address

end Turnstile
