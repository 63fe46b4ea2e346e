import Turnstile.Calendar.Instant
import Turnstile.Text.Base64
import Turnstile.Text.Split

/-!
# Signed envelopes

A token is an envelope written as text: payload, expiry and signature, each in base64, with colons
between them. The expiry is a count of microseconds in eight bytes of two's complement, most
significant byte first; zero stands for a token that never expires.

## Main definitions

- `Expiry` — the eight bytes of an expiry, `Expiry.ofInstant` and `Expiry.isLive`
- `Envelope` — payload, expiry and signature
- `Envelope.encode`, `Envelope.decode?` — the token text
-/

namespace Turnstile

/-- The eight bytes of an expiry. -/
structure Expiry where
  bytes : Bytes
  length_bytes : bytes.length = 8
deriving DecidableEq

namespace Expiry

/-- The expiry with a count of microseconds, which is kept modulo `2 ^ 64`. -/
def ofMicros (m : Int) : Expiry :=
  ⟨Bytes.ofNat64 (m % Int.pow 2 64).toNat, Bytes.length_ofNat 8 _⟩

/-- The expiry at an instant, rounded down to the microsecond, or of a token that never expires. -/
def ofInstant : Option Instant → Expiry
  | some t => ofMicros t.micros
  | none => ofMicros 0

/-- The count of microseconds that an expiry holds, negative if its first bit is set. -/
def micros (e : Expiry) : Int :=
  let n := Bytes.toNat e.bytes
  if n < Nat.pow 2 63 then n else (n : Int) - Int.pow 2 64

/-- Whether the expiry has not passed at `now`. One that the calendar has no instant for counts as
passed. -/
def isLive (e : Expiry) (now : Instant) : Bool :=
  e.micros = 0 ||
    match Instant.ofMicros? e.micros with
    | some t => now ≤ t
    | none => false

/-- Any eight bytes are an expiry. -/
def ofBytes? (bs : Bytes) : Option Expiry :=
  if h : bs.length = 8 then some ⟨bs, h⟩ else none

end Expiry

/-- What a token carries. -/
structure Envelope where
  payload : Bytes
  expiry : Expiry
  signature : Bytes
deriving DecidableEq

namespace Envelope

/-- The character between the segments of a token. -/
def separator : Char := ':'

/-- The token text of an envelope. -/
def encodeChars (e : Envelope) : List Char :=
  Base64.encode e.payload ++ separator :: Base64.encode e.expiry.bytes
    ++ separator :: Base64.encode e.signature

/-- The token text of an envelope. -/
def encode (e : Envelope) : String :=
  String.ofList e.encodeChars

/-- Reads a token text: three segments of strict base64, the second of them of eight bytes. -/
def decodeChars? (cs : List Char) : Option Envelope :=
  match Text.split separator cs with
  | [payload, expiry, signature] => do
    let payload ← Base64.decode? payload
    let expiry ← Expiry.ofBytes? (← Base64.decode? expiry)
    let signature ← Base64.decode? signature
    return ⟨payload, expiry, signature⟩
  | _ => none

/-- Reads a token text. -/
def decode? (token : String) : Option Envelope :=
  decodeChars? token.toList

/-- The bytes that the signature is made for. -/
def message (e : Envelope) : Bytes :=
  e.payload ++ e.expiry.bytes

end Envelope

end Turnstile
