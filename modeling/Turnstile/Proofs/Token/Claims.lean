import Turnstile.Proofs.Token.Acceptance
import Turnstile.Token.Quota
import Turnstile.Token.User

/-!
# What tokens claim

On a clock that can be read, reading the claims of a token never fails: either the signer vouches
for a payload that reads as claims, or there are none.

## Main definitions

- `QuotaClaims.Held`, `UserClaims.Held` — the claims of an authentic, live token
- `UserClaims.Names` — the user that a token names, who is never empty

## Main statements

- `QuotaClaims.parse_eq_ok_some_iff`, `QuotaClaims.parse_eq_ok_none_iff` — reading quota tokens
- `UserClaims.parse_eq_ok_some_iff`, `UserClaims.parse_eq_ok_none_iff` — reading user tokens
-/

namespace Turnstile

variable {signer : Signer} {token : String} {now : Instant}

/-- What is read after verifying is in a payload that the signer vouches for. -/
theorem Signer.exists_vouches_of_verify_bind {α : Type} {read : Bytes → Option α} {a : α}
    (h : (do return (← signer.verify token now).bind read : Except Failure (Option α)) =
      .ok (some a)) :
    ∃ payload, signer.Vouches token now payload ∧ read payload = some a := by
  obtain ⟨payload?, hverify, h⟩ := exists_of_bind_eq_ok h
  obtain ⟨payload, rfl, hread⟩ := Option.bind_eq_some_iff.1 (Except.ok.inj h)
  exact ⟨payload, (verify_eq_ok_some_iff.1 hverify).2, hread⟩

/-- Reading payloads as something else after verifying, on a clock that can be read. -/
theorem Signer.verify_bind_eq_ok_some_iff {α : Type} (hnow : now ≤ Instant.last)
    (read : Bytes → Option α) {a : α} :
    (do return (← signer.verify token now).bind read : Except Failure (Option α)) = .ok (some a) ↔
      ∃ payload, signer.Vouches token now payload ∧ read payload = some a := by
  constructor
  · exact exists_vouches_of_verify_bind
  · rintro ⟨payload, hvouches, hread⟩
    rw [verify_eq_ok_some_iff.2 ⟨hnow, hvouches⟩]
    exact congrArg Except.ok hread

/-- Finding nothing to read after verifying, on a clock that can be read. -/
theorem Signer.verify_bind_eq_ok_none_iff {α : Type} (hnow : now ≤ Instant.last)
    (read : Bytes → Option α) :
    (do return (← signer.verify token now).bind read : Except Failure (Option α)) = .ok none ↔
      ∀ a, ¬∃ payload, signer.Vouches token now payload ∧ read payload = some a := by
  constructor
  · intro h a ha
    rw [(verify_bind_eq_ok_some_iff hnow read).2 ha] at h
    cases h
  · intro h
    -- nothing to read in a payload that is vouched for, or nothing vouched for
    by_cases hvouches : ∃ payload, signer.Vouches token now payload
    · obtain ⟨payload, hpayload⟩ := hvouches
      rw [verify_eq_ok_some_iff.2 ⟨hnow, hpayload⟩]
      cases hread : read payload with
      | none => exact congrArg Except.ok hread
      | some a => exact absurd ⟨payload, hpayload, hread⟩ (h a)
    · rw [(verify_eq_ok_none_iff hnow).2 (not_exists.1 hvouches)]
      rfl

/-- Verifying fails in no other way than that the clock cannot be read. -/
theorem Signer.eq_halted_of_verify {e : Failure} (h : signer.verify token now = .error e) :
    e = .halted := by
  unfold verify at h
  split at h
  · cases h
  · rcases eq_error_or_exists_of_bind_eq_error h with hclock | ⟨_, -, hend⟩
    · exact eq_halted_of_readClock hclock
    · cases hend

namespace QuotaClaims

/-- A token is an authentic, live quota token with these claims. -/
def Held (signer : Signer) (token : String) (now : Instant) (claims : QuotaClaims) : Prop :=
  ∃ payload, signer.Vouches token now payload ∧ ofPayload? payload = some claims

theorem parse_eq_ok_some_iff (hnow : now ≤ Instant.last) {claims : QuotaClaims} :
    parse signer token now = .ok (some claims) ↔ Held signer token now claims :=
  Signer.verify_bind_eq_ok_some_iff hnow ofPayload?

theorem parse_eq_ok_none_iff (hnow : now ≤ Instant.last) :
    parse signer token now = .ok none ↔ ∀ claims, ¬Held signer token now claims :=
  Signer.verify_bind_eq_ok_none_iff hnow ofPayload?

theorem eq_halted_of_parse {e : Failure} (h : parse signer token now = .error e) : e = .halted := by
  rcases eq_error_or_exists_of_bind_eq_error h with hverify | ⟨_, -, hend⟩
  · exact Signer.eq_halted_of_verify hverify
  · cases hend

/-- A clock that can be read does not keep a quota token from being issued. -/
theorem lt_of_issue {source : Entropy} (h : issue signer now source = .error .halted) :
    Instant.last < now := by
  rcases eq_error_or_exists_of_bind_eq_error h with hrandom | ⟨uuid, -, h⟩
  · unfold Uuid.random at hrandom
    split at hrandom
    · cases hrandom
    · next e hdraw =>
      obtain rfl := Except.error.inj hrandom
      unfold Entropy.draw at hdraw
      split at hdraw
      · cases hdraw
      split at hdraw
      · cases hdraw
      · cases hdraw
  · refine Int.not_le.1 fun hnow => ?_
    rw [readClock_of_le hnow] at h
    -- a token that never expires has nothing in it that could fail
    cases h

end QuotaClaims

namespace UserClaims

/-- A token is an authentic, live user token with these claims. -/
def Held (signer : Signer) (token : String) (now : Instant) (claims : UserClaims) : Prop :=
  ∃ payload, signer.Vouches token now payload ∧ ofPayload? payload = some claims

theorem parse_eq_ok_some_iff (hnow : now ≤ Instant.last) {claims : UserClaims} :
    parse signer token now = .ok (some claims) ↔ Held signer token now claims :=
  Signer.verify_bind_eq_ok_some_iff hnow ofPayload?

theorem parse_eq_ok_none_iff (hnow : now ≤ Instant.last) :
    parse signer token now = .ok none ↔ ∀ claims, ¬Held signer token now claims :=
  Signer.verify_bind_eq_ok_none_iff hnow ofPayload?

/-- The user that an authentic, live user token names. The empty name is nobody's. -/
def Names (signer : Signer) (token : String) (now : Instant) (user : String) : Prop :=
  user ≠ "" ∧ ∃ claims, Held signer token now claims ∧ claims.user = user

end UserClaims

end Turnstile
