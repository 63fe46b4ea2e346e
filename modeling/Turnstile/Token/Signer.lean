import Turnstile.Digest.Hmac
import Turnstile.Failure
import Turnstile.Text.Outline
import Turnstile.Text.Utf8
import Turnstile.Token.Envelope

/-!
# Signing and verifying tokens

A signer holds a secret. It puts payloads into envelopes whose signature is the keyed tag of payload
and expiry, and gets a payload back out of a token only if the tag is right and the expiry has not
passed.

## Main definitions

- `Signer.signUntil` — a token that expires at a given instant, or never
- `Signer.sign` — a token that lives for a given time, or forever
- `Signer.verify` — the payload of an authentic, live token
-/

namespace Turnstile

/-- The holder of a signing secret. -/
structure Signer where
  secret : Bytes
deriving DecidableEq

namespace Signer

/-- The signer whose secret is a text. -/
def ofText (secret : String) : Signer :=
  ⟨Utf8.encode secret⟩

/-- The outline of a signer: its secret is never shown. -/
def outline (_ : Signer) : Outline :=
  .record "Signer" [("secret", .wrapped "Secret" Outline.redacted)]

/-- The envelope of a payload with a right signature. -/
def envelope (s : Signer) (payload : Bytes) (expiry : Expiry) : Envelope :=
  ⟨payload, expiry, Hmac.tag s.secret (payload ++ expiry.bytes)⟩

/-- Whether an envelope's signature is right. -/
def isAuthentic (s : Signer) (e : Envelope) : Bool :=
  Hmac.verify s.secret e.message e.signature

/-- A token that expires at an instant, or never. The microsecond zero is refused as an expiry,
because it would read as never. -/
def signUntil (s : Signer) (payload : Bytes) (expiresAt : Option Instant) : Except Failure String :=
  if expiresAt.map Instant.micros = some 0 then .error (.internal .neverExpires)
  else .ok (s.envelope payload (Expiry.ofInstant expiresAt)).encode

/-- The instant at which a token made at `now` expires, none for a token that lives forever. The
clock is read only if there is something to count from it. -/
def expiresAt (ttl : Span) (now : Instant) : Except Failure (Option Instant) :=
  if ttl = 0 then .ok none
  else if Span.longest < ttl then .error (.internal (.lifetimeTooLong ttl))
  else do
    let now ← readClock now
    let t := now + ttl
    if t ≤ Instant.last then return some t else .error (.internal .lifetimePastCalendar)

/-- A token that lives for a given time from `now` on; a time of zero means forever. -/
def sign (s : Signer) (payload : Bytes) (ttl : Span) (now : Instant) : Except Failure String := do
  s.signUntil payload (← expiresAt ttl now)

/-- The payload of a token that is authentic and has not expired. -/
def verify (s : Signer) (token : String) (now : Instant) : Except Failure (Option Bytes) :=
  match Envelope.decode? token with
  | none => .ok none
  | some e => do
    let now ← readClock now
    return if s.isAuthentic e && e.expiry.isLive now then some e.payload else none

end Signer

end Turnstile
