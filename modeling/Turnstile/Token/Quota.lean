import Turnstile.Calendar.Stamp
import Turnstile.Json.Reader
import Turnstile.Json.Source
import Turnstile.Json.Writer
import Turnstile.Token.Signer
import Turnstile.Uuid

/-!
# Quota tokens

A quota token is anonymous. Its claims are a random identifier and the time of issue, and it never
expires by itself: how old it may be is for the limiter to say.

## Main definitions

- `QuotaClaims` — what a quota token claims
- `QuotaClaims.issue`, `QuotaClaims.parse` — making and reading quota tokens
-/

namespace Turnstile

/-- The claims of a quota token. -/
structure QuotaClaims where
  uuid : Uuid
  issued : Stamp
deriving DecidableEq

namespace QuotaClaims

/-- The age of a token at `now`. -/
def age (c : QuotaClaims) (now : Instant) : Span :=
  c.issued.age now

/-- The written claims. -/
def toJson (c : QuotaClaims) : Json :=
  .ofMembers [("uuid", .text c.uuid.render), ("ts", .text c.issued.render)]

/-- Reads claims from a value of any format. -/
def read? {σ : Type} [Source σ] (v : σ) : Option QuotaClaims := do
  let fields ← Record.open? ["uuid", "ts"] v
  let uuid ← Record.required? fields "uuid" fun u => do Uuid.read? (← Source.text? u)
  let issued ← Record.required? fields "ts" fun t => do Stamp.read? (← Source.text? t)
  return ⟨uuid, issued⟩

/-- Reads claims from the payload of a token. -/
def ofPayload? (payload : Bytes) : Option QuotaClaims := do
  read? (← Json.read? payload)

/-- Issues a quota token. -/
def issue (signer : Signer) (now : Instant) (source : Entropy) : Except Failure String := do
  let uuid ← Uuid.random source
  let now ← readClock now
  let claims : QuotaClaims := ⟨uuid, Stamp.ofInstant now⟩
  signer.sign (Utf8.encode claims.toJson.render) 0 now

/-- The claims of an authentic quota token. -/
def parse (signer : Signer) (token : String) (now : Instant) :
    Except Failure (Option QuotaClaims) := do
  return (← signer.verify token now).bind ofPayload?

end QuotaClaims

end Turnstile
