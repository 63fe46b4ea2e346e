import Turnstile.Digest.Sha256

/-!
# Keyed tags

HMAC over SHA-256: the tag that only a holder of the key can compute for a message.

## Main definitions

- `Hmac.tag` — the tag of a message under a key, 32 bytes
- `Hmac.verify` — whether a tag is the message's own, compared as a whole
-/

namespace Turnstile.Hmac

/-- A key brought to the length of one hash block: a longer one is hashed first. -/
def blockKey (key : Bytes) : Bytes :=
  let short := if key.length > 64 then Sha256.digest key else key
  short ++ List.replicate (64 - short.length) 0

/-- The tag of a message under a key. -/
def tag (key message : Bytes) : Bytes :=
  let block := blockKey key
  let inner := Sha256.digest (block.map (· ^^^ 0x36) ++ message)
  Sha256.digest (block.map (· ^^^ 0x5c) ++ inner)

/-- Whether `candidate` is the tag of the message, in full length. -/
def verify (key message candidate : Bytes) : Bool :=
  tag key message = candidate

/-- Verification accepts exactly the message's own tag. -/
theorem verify_eq_true_iff {key message candidate : Bytes} :
    verify key message candidate = true ↔ candidate = tag key message := by
  simp [verify, eq_comm]

end Turnstile.Hmac
