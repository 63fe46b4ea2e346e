import Turnstile.Bytes

/-!
# UTF-8

The UTF-8 form of a text, and the two ways to read one back: strictly, where any malformed byte
refuses the whole text, and leniently, where each malformed run stands for one replacement
character. A malformed run is the longest prefix of some well-formed sequence, or one byte if there
is none.

## Main definitions

- `Utf8.encode` — the bytes of a text
- `Utf8.decode?` — strict reading
- `Utf8.decodeLenient` — reading with U+FFFD for every malformed run
-/

namespace Turnstile.Utf8

/-- The UTF-8 bytes of a list of characters. -/
def encodeChars (cs : List Char) : Bytes :=
  cs.flatMap String.utf8EncodeChar

/-- The UTF-8 bytes of a text. -/
def encode (s : String) : Bytes :=
  encodeChars s.toList

/-- What stands at the front of a byte string: a character or a malformed run, and what follows. -/
inductive Front where
  | char (c : Char) (rest : Bytes)
  | malformed (rest : Bytes)

/-- The bytes after the front. -/
def Front.rest : Front → Bytes
  | .char _ rest => rest
  | .malformed rest => rest

/-- A byte that continues a sequence. -/
def isTail (b : UInt8) : Bool :=
  0x80 ≤ b && b ≤ 0xBF

/-- The second bytes allowed after the first byte of a sequence of three or four. -/
def isSecond (first second : UInt8) : Bool :=
  if first = 0xE0 then 0xA0 ≤ second && second ≤ 0xBF
  else if first = 0xED then 0x80 ≤ second && second ≤ 0x9F
  else if first = 0xF0 then 0x90 ≤ second && second ≤ 0xBF
  else if first = 0xF4 then 0x80 ≤ second && second ≤ 0x8F
  else isTail second

/-- The character spelled by payload bits. -/
def spell (high : UInt8) (mask : Nat) (tails : List UInt8) : Char :=
  Char.ofNat (tails.foldl (fun n b => n * 64 + b.toNat % 64) (high.toNat % mask))

/-- Reads the character or malformed run that starts with byte `a`. -/
def front (a : UInt8) (rest : Bytes) : Front :=
  if a < 0x80 then .char (Char.ofNat a.toNat) rest
  else if 0xC2 ≤ a && a ≤ 0xDF then
    match rest with
    | b :: r => if isTail b then .char (spell a 32 [b]) r else .malformed rest
    | [] => .malformed rest
  else if 0xE0 ≤ a && a ≤ 0xEF then
    match rest with
    | b :: r =>
      if isSecond a b then
        match r with
        | c :: r' => if isTail c then .char (spell a 16 [b, c]) r' else .malformed r
        | [] => .malformed r
      else .malformed rest
    | [] => .malformed rest
  else if 0xF0 ≤ a && a ≤ 0xF4 then
    match rest with
    | b :: r =>
      if isSecond a b then
        match r with
        | c :: r' =>
          if isTail c then
            match r' with
            | d :: r'' => if isTail d then .char (spell a 8 [b, c, d]) r'' else .malformed r'
            | [] => .malformed r'
          else .malformed r
        | [] => .malformed r
      else .malformed rest
    | [] => .malformed rest
  else .malformed rest

/-- Reading the front of a byte string leaves a suffix of what followed its first byte. -/
theorem length_rest_front_le (a : UInt8) (rest : Bytes) :
    (front a rest).rest.length ≤ rest.length := by
  unfold front
  repeat' split
  all_goals simp_all [Front.rest]
  all_goals omega

/-- Reads a text strictly: `none` as soon as a malformed run is met. -/
def decodeChars? (bs : Bytes) : Option (List Char) :=
  match bs with
  | [] => some []
  | a :: rest =>
    match h : front a rest with
    | .char c r =>
      have : r.length ≤ rest.length := by
        have := length_rest_front_le a rest
        rwa [h] at this
      (decodeChars? r).map (c :: ·)
    | .malformed _ => none
termination_by bs.length
decreasing_by simp_wf; omega

/-- Reads a text, putting U+FFFD for every malformed run. -/
def decodeCharsLenient (bs : Bytes) : List Char :=
  match bs with
  | [] => []
  | a :: rest =>
    match h : front a rest with
    | .char c r =>
      have : r.length ≤ rest.length := by
        have := length_rest_front_le a rest
        rwa [h] at this
      c :: decodeCharsLenient r
    | .malformed r =>
      have : r.length ≤ rest.length := by
        have := length_rest_front_le a rest
        rwa [h] at this
      '\uFFFD' :: decodeCharsLenient r
termination_by bs.length
decreasing_by all_goals (simp_wf; omega)

/-- Reads a text strictly. -/
def decode? (bs : Bytes) : Option String :=
  (decodeChars? bs).map String.ofList

/-- Reads a text, putting U+FFFD for every malformed run. -/
def decodeLenient (bs : Bytes) : String :=
  String.ofList (decodeCharsLenient bs)

end Turnstile.Utf8
