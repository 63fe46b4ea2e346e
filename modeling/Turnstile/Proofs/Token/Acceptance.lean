import Mathlib.Data.Set.Basic
import Turnstile.Proofs.Token.Envelope
import Turnstile.Token.Signer

/-!
# Acceptance is issuance

A signer accepts a token exactly if it is, character for character, what signing its payload with an
expiry that has not passed produces. So for the bytes that were signed there is one token, and a
token that nobody was given carries a tag that nobody was given.

## Main definitions

- `Signer.Vouches` — the payload that a token carries for its signer
- `Signer.Issued` — the tokens that a signer makes, with the bytes that it signs for them
- `Signer.Accepts` — the tokens that a signer accepts at some time

## Main statements

- `Signer.verify_eq_ok_some_iff` — which tokens are accepted, and for which payload
- `Signer.acceptance_is_issuance` — there is no second spelling of a token
-/

namespace Turnstile.Signer

variable {s : Signer} {token : String} {payload : Bytes} {now : Instant}

/-- What a token has to be for its signer to vouch for its payload at an instant: the signer's own
envelope, written out, with an expiry that has not passed. -/
def Vouches (s : Signer) (token : String) (now : Instant) (payload : Bytes) : Prop :=
  ∃ expiry : Expiry, expiry.isLive now = true ∧ token = (s.envelope payload expiry).encode

/-- The tokens that a signer makes, with the bytes that it signs for them: those that expire at a
given instant or never, and those that live for a given time. -/
inductive Issued (s : Signer) : Bytes → String → Prop
  | untilInstant {payload : Bytes} {expiry : Option Instant} {token : String}
      (signed : s.signUntil payload expiry = .ok token) :
      Issued s (payload ++ (Expiry.ofInstant expiry).bytes) token
  | forSpan {payload : Bytes} {ttl : Span} {now : Instant} {expiry : Option Instant}
      {token : String}
      (expires : expiresAt ttl now = .ok expiry) (signed : s.sign payload ttl now = .ok token) :
      Issued s (payload ++ (Expiry.ofInstant expiry).bytes) token

/-- The tokens that a signer accepts at some time, whatever their payload is. -/
def Accepts (s : Signer) (token : String) : Prop :=
  ∃ now payload, s.verify token now = .ok (some payload)

/-- An envelope is authentic exactly if it is the signer's own for its payload and expiry. -/
theorem isAuthentic_iff {e : Envelope} :
    s.isAuthentic e = true ↔ e = s.envelope e.payload e.expiry := by
  rw [isAuthentic, Hmac.verify_eq_true_iff]
  constructor
  · intro h
    rw [envelope, ← Envelope.message, ← h]
  · intro h
    rw [h]
    rfl

theorem verify_of_decode? {e : Envelope} (hread : Envelope.decode? token = some e)
    (hnow : now ≤ Instant.last) :
    s.verify token now =
      .ok (if s.isAuthentic e && e.expiry.isLive now then some e.payload else none) := by
  rw [verify, hread]
  simp only [readClock, if_pos hnow]
  rfl

theorem verify_of_decode?_eq_none (hread : Envelope.decode? token = none) :
    s.verify token now = .ok none := by
  rw [verify, hread]

/-- A signer accepts the tokens that it vouches for, on a clock that can be read. -/
theorem verify_eq_ok_some_iff :
    s.verify token now = .ok (some payload) ↔ now ≤ Instant.last ∧ s.Vouches token now payload := by
  cases hread : Envelope.decode? token with
  | none =>
    rw [verify_of_decode?_eq_none hread]
    simp only [Except.ok.injEq, reduceCtorEq, false_iff]
    rintro ⟨-, expiry, -, htoken⟩
    rw [Envelope.decode?_eq_some_iff.2 htoken] at hread
    cases hread
  | some e =>
    have htoken := Envelope.decode?_eq_some_iff.1 hread
    by_cases hnow : now ≤ Instant.last
    · rw [verify_of_decode? hread hnow]
      simp only [Vouches, hnow, true_and, Except.ok.injEq, Option.ite_none_right_eq_some,
        Option.some.injEq, Bool.and_eq_true]
      constructor
      · rintro ⟨⟨hauthentic, hlive⟩, rfl⟩
        refine ⟨e.expiry, hlive, ?_⟩
        rw [htoken, ← isAuthentic_iff.1 hauthentic]
      · rintro ⟨expiry, hlive, hspelled⟩
        rw [Envelope.decode?_eq_some_iff.2 hspelled] at hread
        obtain rfl := Option.some.inj hread
        exact ⟨⟨isAuthentic_iff.2 rfl, hlive⟩, rfl⟩
    · -- the clock is read as soon as there is an envelope, so nothing can be answered
      have hhalted : s.verify token now = .error .halted := by
        rw [verify, hread]
        simp only [readClock, if_neg hnow]
        rfl
      simp [hhalted, hnow]

/-- On a clock that can be read, a token that is not accepted is one that is not vouched for. -/
theorem verify_eq_ok_none_iff (hnow : now ≤ Instant.last) :
    s.verify token now = .ok none ↔ ∀ payload, ¬s.Vouches token now payload := by
  constructor
  · intro h payload hvouches
    rw [verify_eq_ok_some_iff.2 ⟨hnow, hvouches⟩] at h
    cases h
  · intro h
    cases hread : Envelope.decode? token with
    | none => exact verify_of_decode?_eq_none hread
    | some e =>
      rw [verify_of_decode? hread hnow]
      split
      · next hchecked =>
        rw [Bool.and_eq_true] at hchecked
        refine absurd ⟨e.expiry, hchecked.2, ?_⟩ (h e.payload)
        rw [Envelope.decode?_eq_some_iff.1 hread, ← isAuthentic_iff.1 hchecked.1]
      · rfl

theorem eq_encode_of_signUntil {expiry : Option Instant}
    (h : s.signUntil payload expiry = .ok token) :
    token = (s.envelope payload (Expiry.ofInstant expiry)).encode := by
  unfold signUntil at h
  split at h
  · cases h
  · exact (Except.ok.inj h).symm

/-- An issued token is the envelope of the bytes that were signed for it, written out. -/
theorem Issued.eq_encode {message : Bytes} (h : s.Issued message token) :
    ∃ payload expiry, message = payload ++ Expiry.bytes expiry ∧
      token = (s.envelope payload expiry).encode := by
  cases h with
  | untilInstant signed => exact ⟨_, _, rfl, eq_encode_of_signUntil signed⟩
  | forSpan expires signed =>
    rw [sign, expires] at signed
    exact ⟨_, _, rfl, eq_encode_of_signUntil signed⟩

/-- An accepted token carries the tag of the bytes that it says were signed. -/
theorem Accepts.exists_envelope (h : s.Accepts token) :
    ∃ payload expiry, token = (s.envelope payload expiry).encode := by
  obtain ⟨now, payload, hverify⟩ := h
  obtain ⟨-, expiry, -, htoken⟩ := verify_eq_ok_some_iff.1 hverify
  exact ⟨payload, expiry, htoken⟩

theorem toList_encode_envelope (s : Signer) (payload : Bytes) (expiry : Expiry) :
    (s.envelope payload expiry).encode.toList =
      Base64.encode payload ++ ':' :: Base64.encode expiry.bytes
        ++ ':' :: Base64.encode (Hmac.tag s.secret (payload ++ expiry.bytes)) := by
  rw [Envelope.encode, String.toList_ofList]
  rfl

/-- **Acceptance is issuance.** At any time a token is accepted for a payload exactly if it is,
character for character, the payload, a live expiry and their tag in base64. So two accepted tokens
for the same signed bytes are the same text, and an accepted token outside of any set of tokens that
the signer issued carries the right tag of bytes that were signed for none of them. -/
theorem acceptance_is_issuance (s : Signer) :
    (∀ (token : String) (payload : Bytes) (now : Instant),
      s.verify token now = .ok (some payload) ↔
        now ≤ Instant.last ∧ ∃ expiry : Expiry, expiry.isLive now = true ∧
          token.toList = Base64.encode payload ++ ':' :: Base64.encode expiry.bytes
            ++ ':' :: Base64.encode (Hmac.tag s.secret (payload ++ expiry.bytes))) ∧
    (∀ (token token' : String) (e e' : Envelope), s.Accepts token → s.Accepts token' →
      Envelope.decode? token = some e → Envelope.decode? token' = some e' →
      e.message = e'.message → token = token') ∧
    (∀ (issued : Set String) (token : String), s.Accepts token → token ∉ issued →
      ∃ e, Envelope.decode? token = some e ∧ e.signature = Hmac.tag s.secret e.message ∧
        ∀ token' ∈ issued, ∀ message, s.Issued message token' → message ≠ e.message) := by
  refine ⟨?_, ?_, ?_⟩
  · intro token payload now
    simp only [verify_eq_ok_some_iff, Vouches, String.ext_iff, toList_encode_envelope]
  · intro token token' e e' haccepted haccepted' hread hread' hmessage
    obtain ⟨payload, expiry, htoken⟩ := haccepted.exists_envelope
    obtain ⟨payload', expiry', htoken'⟩ := haccepted'.exists_envelope
    rw [Envelope.decode?_eq_some_iff.2 htoken] at hread
    rw [Envelope.decode?_eq_some_iff.2 htoken'] at hread'
    obtain rfl := Option.some.inj hread
    obtain rfl := Option.some.inj hread'
    change payload ++ expiry.bytes = payload' ++ expiry'.bytes at hmessage
    obtain ⟨rfl, rfl⟩ := Envelope.payload_expiry_of_append_eq hmessage
    rw [htoken, htoken']
  · intro issued token haccepted hfresh
    -- the same bytes signed for another token would make it the same text
    obtain ⟨payload, expiry, htoken⟩ := haccepted.exists_envelope
    refine ⟨_, Envelope.decode?_eq_some_iff.2 htoken, rfl, ?_⟩
    rintro token' hmem message hissued rfl
    obtain ⟨payload', expiry', hmessage, htoken'⟩ := hissued.eq_encode
    change payload ++ expiry.bytes = payload' ++ expiry'.bytes at hmessage
    obtain ⟨rfl, rfl⟩ := Envelope.payload_expiry_of_append_eq hmessage
    exact hfresh (by rwa [htoken, ← htoken'])

end Turnstile.Signer
