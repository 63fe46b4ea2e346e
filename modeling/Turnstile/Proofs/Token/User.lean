import Turnstile.Proofs.Json.RoundTrip
import Turnstile.Proofs.Token.Claims
import Turnstile.Proofs.Token.Window

/-!
# User tokens name their users

A user token carries the name of its user as a JSON text, whatever characters there are in it.
Within its time it reads back as just that name and the nonce that was drawn for it, and after that
as nothing.

## Main statements

- `UserClaims.ofPayload?_render` — written claims read back
- `UserClaims.exists_issue_iff` — when a user token is issued
- `UserClaims.parse_of_issue` — what an issued token reads as
-/

namespace Turnstile

theorem Entropy.exists_draw_iff {source : Entropy} {n : Nat} (hn : n ≠ 0) :
    (∃ bs, source.draw n = .ok bs) ↔ source.bytes ≠ [] := by
  unfold draw
  rw [if_neg hn]
  split
  · next hempty => simp [hempty]
  · next hbytes => simp [hbytes]

namespace UserClaims

variable {signer : Signer} {user : String} {ttl : Span} {now : Instant} {source : Entropy}

/-- Written claims read back, whatever the name of the user is. -/
theorem ofPayload?_render (claims : UserClaims) :
    ofPayload? (Utf8.encode claims.toJson.render) = some claims := by
  have hread : Json.read? (Utf8.encode claims.toJson.render) = some claims.toJson :=
    Json.read?_render_ofTexts ("user", claims.user) [("random", claims.random)]
  rw [ofPayload?, hread]
  rfl

/-- A user token is issued if there are bytes to draw a nonce from, and the token can live as long
as it should. -/
theorem exists_issue_iff :
    (∃ token, issue signer user ttl now source = .ok token) ↔
      source.bytes ≠ [] ∧
      (ttl = 0 ∨ ttl ≤ Span.longest ∧ now ≤ Instant.last ∧ now + ttl ≤ Instant.last ∧
        Instant.micros (now + ttl) ≠ 0) := by
  rw [← Entropy.exists_draw_iff (n := nonceLength) (by decide)]
  constructor
  · rintro ⟨token, h⟩
    obtain ⟨nonce, hdraw, hsign⟩ := exists_of_bind_eq_ok h
    exact ⟨⟨nonce, hdraw⟩, Signer.exists_sign_iff.1 ⟨token, hsign⟩⟩
  · rintro ⟨⟨nonce, hdraw⟩, hlives⟩
    obtain ⟨token, hsign⟩ := Signer.exists_sign_iff.2 hlives
    refine ⟨token, ?_⟩
    rw [issue, hdraw]
    exact hsign

/-- A token that was made for some claims holds them within its time, and no claims at any other. -/
theorem held_iff_of_sign {claims other : UserClaims} {token : String} {later : Instant}
    (calendar : Instant.first ≤ now)
    (signed : signer.sign (Utf8.encode claims.toJson.render) ttl now = .ok token) :
    Held signer token later other ↔ other = claims ∧ Signer.Within ttl now later :=
  Signer.exists_vouches_iff_of_sign calendar signed (ofPayload?_render claims)

/-- **User tokens name their users.** Whatever the name of a user is, a token that was issued for it
at an instant of the calendar reads back as that name and the nonce that was drawn, at every instant
up to the end of the token's time, rounded down to the microsecond. Afterwards there are no claims
to be read, and nobody is named. -/
theorem parse_of_issue (signer : Signer) (user : String) (ttl : Span) (now : Instant)
    (source : Entropy) (token : String) (calendar : Instant.first ≤ now)
    (issued : issue signer user ttl now source = .ok token) :
    ∃ nonce, source.draw nonceLength = .ok nonce ∧ nonce.length = 32 ∧ ∀ later ≤ Instant.last,
      (ttl = 0 ∨ later ≤ Instant.micros (now + ttl) * 1000 →
        parse signer token later = .ok (some ⟨user, String.ofList (Base64.encode nonce)⟩) ∧
          userOf signer token later = .ok user) ∧
      (¬(ttl = 0 ∨ later ≤ Instant.micros (now + ttl) * 1000) →
        parse signer token later = .ok none ∧ userOf signer token later = .ok "") := by
  obtain ⟨nonce, hdraw, hsign⟩ := exists_of_bind_eq_ok issued
  refine ⟨nonce, hdraw, Entropy.length_of_draw hdraw, fun later hlater => ?_⟩
  refine ⟨fun hwithin => ?_, fun hpast => ?_⟩
  · have hparse : parse signer token later =
        .ok (some ⟨user, String.ofList (Base64.encode nonce)⟩) :=
      (parse_eq_ok_some_iff hlater).2 ((held_iff_of_sign calendar hsign).2 ⟨rfl, hwithin⟩)
    refine ⟨hparse, ?_⟩
    rw [userOf, hparse]
    rfl
  · have hparse : parse signer token later = .ok none :=
      (parse_eq_ok_none_iff hlater).2 fun other hheld =>
        hpast ((held_iff_of_sign calendar hsign).1 hheld).2
    refine ⟨hparse, ?_⟩
    rw [userOf, hparse]
    rfl

/-- A name that has a quote, a brace, a backslash, control characters and a character of four bytes
in it. -/
def awkward : String := "\"\x7d,\\ \n\x01:😀"

/-- A token of a second and half a microsecond, made at the first microsecond, is good for as long
as the last microsecond that it fills. -/
theorem parse_of_issue_awkward :
    ∃ token, issue (Signer.ofText "secret") awkward 1000000500 1000 ⟨[7]⟩ = .ok token ∧
      userOf (Signer.ofText "secret") token 1000001000 = .ok awkward ∧
      userOf (Signer.ofText "secret") token 1000001001 = .ok "" := by
  obtain ⟨token, hissue⟩ :
      ∃ token, issue (Signer.ofText "secret") awkward 1000000500 1000 ⟨[7]⟩ = .ok token :=
    exists_issue_iff.2 ⟨by decide, Or.inr (by decide)⟩
  obtain ⟨nonce, -, -, hread⟩ :=
    parse_of_issue (Signer.ofText "secret") awkward 1000000500 1000 ⟨[7]⟩ token (by decide) hissue
  refine ⟨token, hissue, ?_, ?_⟩
  · exact ((hread 1000001000 (by decide)).1 (by decide)).2
  · exact ((hread 1000001001 (by decide)).2 (by decide)).2

end UserClaims

end Turnstile
