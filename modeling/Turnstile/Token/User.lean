import Turnstile.Json.Reader
import Turnstile.Json.Source
import Turnstile.Json.Writer
import Turnstile.Token.Signer
import Turnstile.Entropy

/-!
# User tokens

A user token names a user. It carries a random nonce, so that no two tokens of a user are alike.

## Main definitions

- `UserClaims` — what a user token claims
- `UserClaims.issue`, `UserClaims.parse` — making and reading user tokens
- `UserClaims.userOf` — the user that a token names, empty if it names none
-/

namespace Turnstile

/-- The claims of a user token. -/
structure UserClaims where
  user : String
  random : String
deriving DecidableEq

namespace UserClaims

/-- The number of random bytes in a nonce. -/
def nonceLength : Nat := 32

/-- How long user tokens live unless told otherwise: 48 hours. -/
def defaultLifetime : Span := Span.ofSeconds (48 * 60 * 60)

/-- The written claims. -/
def toJson (c : UserClaims) : Json :=
  .ofMembers [("user", .text c.user), ("random", .text c.random)]

/-- Reads claims from a value of any format. -/
def read? {σ : Type} [Source σ] (v : σ) : Option UserClaims := do
  let fields ← Record.open? ["user", "random"] v
  let user ← Record.required? fields "user" Source.text?
  let random ← Record.required? fields "random" Source.text?
  return ⟨user, random⟩

/-- Reads claims from the payload of a token. -/
def ofPayload? (payload : Bytes) : Option UserClaims := do
  read? (← Json.read? payload)

/-- Issues a token that names a user. -/
def issue (signer : Signer) (user : String) (ttl : Span) (now : Instant) (source : Entropy) :
    Except Failure String := do
  let nonce ← source.draw nonceLength
  let claims : UserClaims := ⟨user, String.ofList (Base64.encode nonce)⟩
  signer.sign (Utf8.encode claims.toJson.render) ttl now

/-- The claims of an authentic, live user token. -/
def parse (signer : Signer) (token : String) (now : Instant) :
    Except Failure (Option UserClaims) := do
  return (← signer.verify token now).bind ofPayload?

/-- The user that a token names; empty if the token does not verify. -/
def userOf (signer : Signer) (token : String) (now : Instant) : Except Failure String := do
  return ((← parse signer token now).map (·.user)).getD ""

end UserClaims

end Turnstile
