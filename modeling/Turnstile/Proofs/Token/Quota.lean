import Turnstile.Proofs.Calendar.Stamp
import Turnstile.Proofs.Json.RoundTrip
import Turnstile.Proofs.Limiter.Check
import Turnstile.Proofs.Token.Window
import Turnstile.Proofs.Uuid

/-!
# The life of a quota token

A quota token can be made at every instant of the calendar, and it reads back as the identifier that
was drawn and the nanosecond at which it was made, at every instant on. So it never becomes invalid.
It expires when the limiter has a greatest age and the token is older, and else it is as good as its
own text as a subject.

## Main definitions

- `Limiter.TooOld` — a token that was made too long ago for a limiter

## Main statements

- `QuotaClaims.ofPayload?_render` — written claims read back
- `QuotaClaims.held_of_sign` — what a quota token holds
- `Limiter.checkToken_of_issue` — what becomes of an issued token
-/

namespace Turnstile

namespace QuotaClaims

variable {signer : Signer} {uuid : Uuid} {made later : Instant} {source : Entropy} {token : String}

theorem read?_ofTexts (uuid issued : String) :
    read? (Json.ofTexts [("uuid", uuid), ("ts", issued)]) =
      (Uuid.read? uuid).bind fun u => (Stamp.read? issued).bind fun t => some ⟨u, t⟩ := by
  have hfields : Record.open? ["uuid", "ts"] (Json.ofTexts [("uuid", uuid), ("ts", issued)]) =
      some [("uuid", .text uuid), ("ts", .text issued)] := rfl
  rw [read?, hfields]
  rfl

/-- The claims of a token that was made at an instant. -/
def madeAt (uuid : Uuid) (made : Instant) : QuotaClaims :=
  ⟨uuid, Stamp.ofInstant made⟩

/-- Written claims read back, to the nanosecond. -/
theorem ofPayload?_render (uuid : Uuid) (calendar : made.InCalendar) :
    ofPayload? (Utf8.encode (madeAt uuid made).toJson.render) = some (madeAt uuid made) := by
  have hread : Json.read? (Utf8.encode (madeAt uuid made).toJson.render) =
      some (Json.ofTexts [("uuid", uuid.render), ("ts", (Stamp.ofInstant made).render)]) :=
    Json.read?_render_ofTexts ("uuid", uuid.render) [("ts", (Stamp.ofInstant made).render)]
  rw [ofPayload?, hread]
  simp only [Option.bind_eq_bind, Option.bind_some, read?_ofTexts, Uuid.read?_render,
    Stamp.read?_render_ofInstant calendar]
  rfl

/-- A source that has bytes is all that it takes to make a quota token. -/
theorem exists_issue (signer : Signer) (hsource : source.bytes ≠ []) (calendar : made.InCalendar) :
    ∃ uuid token, Uuid.random source = .ok uuid ∧ uuid.IsRandom ∧
      issue signer made source = .ok token ∧
      signer.sign (Utf8.encode (madeAt uuid made).toJson.render) 0 made = .ok token := by
  obtain ⟨uuid, hrandom, hmarked⟩ := Uuid.exists_random hsource
  obtain ⟨token, hsign⟩ :
      ∃ token, signer.sign (Utf8.encode (madeAt uuid made).toJson.render) 0 made = .ok token :=
    Signer.exists_sign_iff.2 (Or.inl rfl)
  refine ⟨uuid, token, hrandom, hmarked, ?_, hsign⟩
  rw [issue, hrandom, readClock_of_le calendar.2]
  exact hsign

theorem held_of_sign (calendar : made.InCalendar)
    (signed : signer.sign (Utf8.encode (madeAt uuid made).toJson.render) 0 made = .ok token) :
    Held signer token later (madeAt uuid made) :=
  (Signer.exists_vouches_iff_of_sign calendar.1 signed (ofPayload?_render uuid calendar)).2
    ⟨rfl, Or.inl rfl⟩

end QuotaClaims

namespace Limiter

variable {settings : LimiterSettings} {signer : Signer} {store left : Store} {token : String}
  {made now : Instant} {uuid : Uuid}

/-- A token that was made too long ago for a limiter with a greatest age. -/
def TooOld (settings : LimiterSettings) (made now : Instant) : Prop :=
  ∃ timeout, settings.tokenTimeout = some timeout ∧ (timeout : Int) < now - made

theorem lt_age_iff {timeout : Span} : timeout < (QuotaClaims.madeAt uuid made).age now ↔
    (timeout : Int) < now - made := by
  rw [QuotaClaims.age, QuotaClaims.madeAt, Stamp.age_ofInstant, Int.lt_toNat]

theorem checkToken_of_tooOld (hnow : now ≤ Instant.last)
    (held : QuotaClaims.Held signer token now (QuotaClaims.madeAt uuid made))
    (old : TooOld settings made now) :
    checkToken settings signer store token now = .ok (.tokenExpired, store) := by
  obtain ⟨timeout, hlimit, hold⟩ := old
  exact checkToken_of_refused (refusal_of_expired hnow held hlimit (lt_age_iff.2 hold))

theorem checkToken_of_not_tooOld (hnow : now ≤ Instant.last)
    (held : QuotaClaims.Held signer token now (QuotaClaims.madeAt uuid made))
    (young : ¬TooOld settings made now) :
    checkToken settings signer store token now = checkSubject settings store token now := by
  refine checkToken_of_not_refused (refusal_of_young hnow held fun timeout hlimit => ?_)
  exact Nat.not_lt.1 fun hold => young ⟨timeout, hlimit, lt_age_iff.1 hold⟩

theorem verdict_of_checkSubject {subject : String} {v : Verdict}
    (h : checkSubject settings store subject now = .ok (v, left)) :
    v = .success ∨ v = .rateLimited := by
  obtain ⟨ticks, -, h⟩ := exists_of_bind_eq_ok h
  obtain ⟨⟨remaining, after⟩, -, h⟩ := exists_of_bind_eq_ok h
  obtain ⟨rfl, -⟩ := Prod.mk.inj (Except.ok.inj h)
  unfold Verdict.ofRemaining
  split
  · exact Or.inr rfl
  · exact Or.inl rfl

/-- **The life of a quota token.** From a source that has bytes, a token is made at any instant of
the calendar. At every time it reads back as the identifier that was drawn, marked as a random one,
and the instant at which it was made. Whatever the limiter and its store are, it never becomes
invalid. It expires exactly if it is too old, and then the store is left as it is; and else it is
checked as the subject that its text is. -/
theorem checkToken_of_issue (signer : Signer) (source : Entropy) (made : Instant)
    (hsource : source.bytes ≠ []) (calendar : made.InCalendar) :
    ∃ uuid token, Uuid.random source = .ok uuid ∧ uuid.IsRandom ∧
      QuotaClaims.issue signer made source = .ok token ∧ (Stamp.ofInstant made).toInstant = made ∧
      ∀ now ≤ Instant.last,
        QuotaClaims.parse signer token now = .ok (some ⟨uuid, Stamp.ofInstant made⟩) ∧
        ∀ settings store,
          (∀ left, checkToken settings signer store token now ≠ .ok (.tokenInvalid, left)) ∧
          (∀ left, checkToken settings signer store token now = .ok (.tokenExpired, left) ↔
            left = store ∧ TooOld settings made now) ∧
          (¬TooOld settings made now →
            checkToken settings signer store token now =
              checkSubject settings store token now) := by
  obtain ⟨uuid, token, hrandom, hmarked, hissue, hsign⟩ :=
    QuotaClaims.exists_issue signer hsource calendar
  refine ⟨uuid, token, hrandom, hmarked, hissue, Stamp.toInstant_ofInstant made, fun now hnow => ?_⟩
  have hheld : QuotaClaims.Held signer token now (QuotaClaims.madeAt uuid made) :=
    QuotaClaims.held_of_sign calendar hsign
  refine ⟨(QuotaClaims.parse_eq_ok_some_iff hnow).2 hheld, fun settings store => ?_⟩
  by_cases hold : TooOld settings made now
  · rw [checkToken_of_tooOld hnow hheld hold]
    refine ⟨fun left h => ?_, fun left => ?_, fun young => absurd hold young⟩
    · cases (Prod.mk.inj (Except.ok.inj h)).1
    · simp [hold, eq_comm]
  · rw [checkToken_of_not_tooOld hnow hheld hold]
    refine ⟨fun left h => ?_, fun left => ⟨fun h => ?_, fun h => absurd h.2 hold⟩, fun _ => rfl⟩
    · rcases verdict_of_checkSubject h with h | h <;> cases h
    · rcases verdict_of_checkSubject h with h | h <;> cases h

/-- A minute, as the greatest age of a token. -/
def forAMinute : LimiterSettings :=
  { tokenTimeout := some (Span.ofSeconds 60) }

/-- A token that was made on a leap day, twelve hundredths of a second into it, and its last
nanosecond. -/
theorem checkToken_of_leapDay :
    ∃ token, QuotaClaims.issue (Signer.ofText "secret") 951782400120000000 ⟨[7]⟩ = .ok token ∧
      checkToken forAMinute (Signer.ofText "secret") .empty token 951782460120000000 =
        checkSubject forAMinute .empty token 951782460120000000 ∧
      checkToken forAMinute (Signer.ofText "secret") .empty token 951782460120000001 =
        .ok (.tokenExpired, .empty) := by
  obtain ⟨uuid, token, -, -, hissue, -, hlife⟩ :=
    checkToken_of_issue (Signer.ofText "secret") ⟨[7]⟩ 951782400120000000 (by decide) (by decide)
  refine ⟨token, hissue, ?_, ?_⟩
  · obtain ⟨-, hchecks⟩ := hlife 951782460120000000 (by decide)
    refine (hchecks forAMinute .empty).2.2 ?_
    rintro ⟨timeout, hlimit, hold⟩
    obtain rfl := Option.some.inj hlimit
    exact absurd hold (by decide)
  · obtain ⟨-, hchecks⟩ := hlife 951782460120000001 (by decide)
    exact ((hchecks forAMinute .empty).2.1 .empty).2 ⟨rfl, _, rfl, by decide⟩

end Limiter

end Turnstile
