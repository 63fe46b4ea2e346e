import Mathlib.Algebra.Ring.Nat
import Turnstile.Proofs.Token.Acceptance

/-!
# How long tokens are accepted

An expiry holds the microsecond of its instant, for all instants of the calendar. So a token that
was signed for a given time is accepted up to the microsecond in which that time ends, and not after
it; one that was signed for no time in particular is accepted forever.

## Main definitions

- `Signer.Within` — the instants at which a token that lives for a given time is accepted

## Main statements

- `Expiry.isLive_ofInstant` — what an expiry says of later instants
- `Signer.exists_sign_iff` — which tokens can be made
- `Signer.vouches_iff_of_sign` — what a signer vouches for in its own tokens
- `Signer.signing_window` — which tokens can be made, and what they are verified to at all times
-/

namespace Turnstile

/-! ### Numbers in bytes -/

theorem Bytes.foldl_ofNat (width n a : Nat) :
    (ofNat width n).foldl (fun m b => m * 256 + b.toNat) a = a * 256 ^ width + n % 256 ^ width := by
  induction width generalizing a with
  | zero => simp [ofNat, Nat.mod_one]
  | succ w ih =>
    have hbyte : n / 256 ^ w % 256 < 256 := Nat.mod_lt _ (by decide)
    have hmod : n % 256 ^ (w + 1) = n % 256 ^ w + 256 ^ w * (n / 256 ^ w % 256) := Nat.mod_pow_succ
    rw [ofNat, List.foldl_cons, Nat.pow_eq, toNat_byte hbyte, ih, hmod, Nat.pow_succ, Nat.add_mul]
    rw [Nat.mul_assoc a 256, Nat.mul_comm 256 (256 ^ w), Nat.mul_comm (256 ^ w) (n / 256 ^ w % 256)]
    omega

theorem Bytes.toNat_ofNat {width n : Nat} (h : n < 256 ^ width) : toNat (ofNat width n) = n := by
  rw [toNat, foldl_ofNat, Nat.zero_mul, Nat.zero_add, Nat.mod_eq_of_lt h]

/-! ### Expiries -/

namespace Expiry

/-- An expiry holds a count of microseconds that fits into 64 bits with its sign. -/
theorem micros_ofMicros {m : Int} (hleast : -9223372036854775808 ≤ m)
    (hgreatest : m < 9223372036854775808) :
    (ofMicros m).micros = m := by
  have hwidth : (256 : Nat) ^ 8 = 18446744073709551616 := by decide
  have hmod : Int.pow 2 64 = 18446744073709551616 := by decide
  have hsign : Nat.pow 2 63 = 9223372036854775808 := by decide
  have hnat : Bytes.toNat (ofMicros m).bytes = (m % 18446744073709551616).toNat := by
    rw [ofMicros, hmod]
    exact Bytes.toNat_ofNat (by rw [hwidth]; omega)
  unfold micros
  dsimp only
  rw [hnat, hmod, hsign]
  split <;> omega

theorem micros_bounds {t : Int} (hfirst : -8334601228800000000000 ≤ t)
    (hlast : t ≤ 8210266876799999999999) :
    -9223372036854775808 ≤ t / 1000 ∧ t / 1000 < 9223372036854775808 ∧
      -8334601228800000000000 ≤ t / 1000 * 1000 ∧ t / 1000 * 1000 ≤ 8210266876799999999999 := by
  omega

theorem micros_ofInstant {t : Instant} (h : t.InCalendar) :
    (ofInstant (some t)).micros = t.micros := by
  obtain ⟨hleast, hgreatest, -⟩ := micros_bounds h.1 h.2
  exact micros_ofMicros hleast hgreatest

/-- The calendar has the beginning of every microsecond of its instants. -/
theorem ofMicros?_micros {t : Instant} (h : t.InCalendar) :
    Instant.ofMicros? t.micros = some (t.micros * 1000) := by
  obtain ⟨-, -, hfirst, hlast⟩ := micros_bounds h.1 h.2
  exact if_pos ⟨hfirst, hlast⟩

/-- The calendar goes on after the beginning of its last microsecond. -/
theorem micros_mul_lt_last {t : Instant} (h : t ≤ Instant.last) :
    t.micros * 1000 < Instant.last := by
  have hnumber : ∀ n : Int, n ≤ 8210266876799999999999 →
      n / 1000 * 1000 < 8210266876799999999999 := by
    omega
  exact hnumber t h

/-- The expiry of an instant has not passed up to the beginning of its microsecond. That of the
microsecond zero never passes. -/
theorem isLive_ofInstant {t now : Instant} (h : t.InCalendar) :
    (ofInstant (some t)).isLive now = true ↔ t.micros = 0 ∨ now ≤ t.micros * 1000 := by
  rw [isLive, micros_ofInstant h, ofMicros?_micros h]
  simp

theorem isLive_ofInstant_none (now : Instant) : (ofInstant none).isLive now = true := by
  rw [isLive, ofInstant, micros_ofMicros (by decide) (by decide)]
  rfl

end Expiry

/-! ### Tokens -/

namespace Signer

variable {s : Signer} {token : String} {payload other : Bytes} {ttl : Span}
  {now later t : Instant} {e : Failure}

/-- The instants at which a token made at `now` is accepted if it lives for a given time: all of
them if that is zero, and else those up to the end of that time, rounded down to the microsecond. -/
def Within (ttl : Span) (now later : Instant) : Prop :=
  ttl = 0 ∨ later ≤ Instant.micros (now + ttl) * 1000

instance (ttl : Span) (now later : Instant) : Decidable (Within ttl now later) := by
  unfold Within
  infer_instance

theorem expiresAt_cases {expiry : Option Instant} (h : expiresAt ttl now = .ok expiry) :
    (ttl = 0 ∧ expiry = none) ∨
    (ttl ≠ 0 ∧ expiry = some (now + ttl) ∧ now + ttl ≤ Instant.last) := by
  unfold expiresAt at h
  split at h
  · next hforever => exact Or.inl ⟨hforever, (Except.ok.inj h).symm⟩
  next hspan =>
  split at h
  · cases h
  · obtain ⟨t, hclock, h⟩ := exists_of_bind_eq_ok h
    have hnow : t = now := by
      unfold readClock at hclock
      split at hclock
      · exact (Except.ok.inj hclock).symm
      · cases hclock
    rw [hnow] at h
    dsimp only at h
    split at h
    · next hlast => exact Or.inr ⟨hspan, (Except.ok.inj h).symm, hlast⟩
    · cases h

/-- A token is signed for any time that ends within the calendar, and not in the microsecond
zero. -/
theorem exists_sign_iff :
    (∃ token, s.sign payload ttl now = .ok token) ↔
      ttl = 0 ∨ ttl ≤ Span.longest ∧ now ≤ Instant.last ∧ now + ttl ≤ Instant.last ∧
        Instant.micros (now + ttl) ≠ 0 := by
  by_cases hforever : ttl = 0
  · refine iff_of_true ⟨(s.envelope payload (Expiry.ofInstant none)).encode, ?_⟩ (Or.inl hforever)
    rw [sign, expiresAt, if_pos hforever]
    rfl
  rw [or_iff_right hforever]
  unfold sign expiresAt
  rw [if_neg hforever]
  by_cases hlong : Span.longest < ttl
  · rw [if_pos hlong]
    refine iff_of_false ?_ fun h => absurd h.1 (Nat.not_le.2 hlong)
    rintro ⟨token, ⟨⟩⟩
  rw [if_neg hlong]
  by_cases hnow : now ≤ Instant.last
  · by_cases hlast : now + ttl ≤ Instant.last
    · by_cases hzero : Instant.micros (now + ttl) = 0
      · refine iff_of_false ?_ fun h => h.2.2.2 hzero
        simp [readClock_of_le hnow, hlast, signUntil, hzero, bind, Except.bind, pure, Except.pure]
      · refine iff_of_true ?_ ⟨Nat.not_lt.1 hlong, hnow, hlast, hzero⟩
        simp [readClock_of_le hnow, hlast, signUntil, hzero, bind, Except.bind, pure, Except.pure]
    · refine iff_of_false ?_ fun h => hlast h.2.2.1
      simp [readClock_of_le hnow, hlast, bind, Except.bind]
  · refine iff_of_false ?_ fun h => hnow h.2.1
    simp [readClock_of_lt (Int.not_le.1 hnow), bind, Except.bind]

theorem signUntil_some (s : Signer) (payload : Bytes) (t : Instant) :
    s.signUntil payload (some t) =
      if t.micros = 0 then .error (.internal .neverExpires)
      else .ok (s.envelope payload (Expiry.ofInstant (some t))).encode := by
  simp [signUntil]

theorem micros_ne_zero_of_signUntil (signed : s.signUntil payload (some t) = .ok token) :
    t.micros ≠ 0 := by
  intro hzero
  rw [signUntil_some, if_pos hzero] at signed
  cases signed

/-- A token that is not signed fails for a cause of the signer's own, on a clock that can be
read. -/
theorem exists_internal_of_sign (hnow : now ≤ Instant.last)
    (failed : s.sign payload ttl now = .error e) :
    ∃ fault, e = .internal fault := by
  rcases eq_error_or_exists_of_bind_eq_error failed with hexpires | ⟨expiry, -, hsign⟩
  · unfold expiresAt at hexpires
    split at hexpires
    · cases hexpires
    split at hexpires
    · exact ⟨_, (Except.error.inj hexpires).symm⟩
    · rw [readClock_of_le hnow] at hexpires
      simp only [bind, Except.bind] at hexpires
      split at hexpires
      · cases hexpires
      · exact ⟨_, (Except.error.inj hexpires).symm⟩
  · unfold signUntil at hsign
    split at hsign
    · exact ⟨_, (Except.error.inj hsign).symm⟩
    · cases hsign

theorem isLive_of_signUntil (calendar : t.InCalendar)
    (signed : s.signUntil payload (some t) = .ok token) :
    (Expiry.ofInstant (some t)).isLive later = true ↔ later ≤ t.micros * 1000 := by
  rw [Expiry.isLive_ofInstant calendar, or_iff_right (micros_ne_zero_of_signUntil signed)]

/-- The expiry of a signed token has not passed exactly within its time. -/
theorem isLive_of_sign {expiry : Option Instant} (calendar : Instant.first ≤ now)
    (expires : expiresAt ttl now = .ok expiry) (signed : s.signUntil payload expiry = .ok token) :
    (Expiry.ofInstant expiry).isLive later = true ↔ Within ttl now later := by
  rcases expiresAt_cases expires with ⟨hforever, rfl⟩ | ⟨hspan, rfl, hlast⟩
  · exact iff_of_true (Expiry.isLive_ofInstant_none later) (Or.inl hforever)
  · have hfirst : Instant.first ≤ now + ttl :=
      Int.le_trans calendar (Int.le_add_of_nonneg_right (Int.natCast_nonneg ttl))
    rw [isLive_of_signUntil ⟨hfirst, hlast⟩ signed, Within, or_iff_right hspan]

/-- **How long tokens are accepted.** For a token that it signed at an instant of the calendar, a
signer vouches for the payload and nothing else, and just within the time that the token was signed
for. -/
theorem vouches_iff_of_sign (calendar : Instant.first ≤ now)
    (signed : s.sign payload ttl now = .ok token) :
    s.Vouches token later other ↔ other = payload ∧ Within ttl now later := by
  obtain ⟨expiry, hexpires, hsigned⟩ := exists_of_bind_eq_ok signed
  have htoken := eq_encode_of_signUntil hsigned
  rw [← isLive_of_sign calendar hexpires hsigned]
  constructor
  · rintro ⟨expiry', hlive, htoken'⟩
    -- a token has one envelope only
    have henvelope := Envelope.decode?_eq_some_iff.2 htoken'
    rw [Envelope.decode?_eq_some_iff.2 htoken] at henvelope
    obtain ⟨rfl, rfl, -⟩ := Envelope.mk.inj (Option.some.inj henvelope)
    exact ⟨rfl, hlive⟩
  · rintro ⟨rfl, hlive⟩
    exact ⟨_, hlive, htoken⟩

/-- What is read from a signed token is what its payload reads as, within its time. -/
theorem exists_vouches_iff_of_sign {α : Type} {read : Bytes → Option α} {a b : α}
    (calendar : Instant.first ≤ now) (signed : s.sign payload ttl now = .ok token)
    (hread : read payload = some a) :
    (∃ payload, s.Vouches token later payload ∧ read payload = some b) ↔
      b = a ∧ Within ttl now later := by
  simp only [vouches_iff_of_sign calendar signed]
  constructor
  · rintro ⟨other, ⟨rfl, hwithin⟩, hother⟩
    rw [hread] at hother
    exact ⟨(Option.some.inj hother).symm, hwithin⟩
  · rintro ⟨rfl, hwithin⟩
    exact ⟨payload, ⟨rfl, hwithin⟩, hread⟩

/-! ### Verifying what was signed -/

/-- A signer gets the payload out of its own envelope as long as the expiry has not passed. -/
theorem verify_of_eq_encode {expiry : Expiry} {live : Prop} [Decidable live]
    (htoken : token = (s.envelope payload expiry).encode)
    (hlive : expiry.isLive later = true ↔ live) (hlater : later ≤ Instant.last) :
    s.verify token later = .ok (if live then some payload else none) := by
  have hauthentic : s.isAuthentic (s.envelope payload expiry) = true := isAuthentic_iff.2 rfl
  rw [verify_of_decode? (Envelope.decode?_eq_some_iff.2 htoken) hlater, hauthentic, Bool.true_and]
  exact congrArg Except.ok (if_congr hlive rfl rfl)

theorem verify_of_sign (calendar : Instant.first ≤ now)
    (signed : s.sign payload ttl now = .ok token) (hlater : later ≤ Instant.last) :
    s.verify token later = .ok (if Within ttl now later then some payload else none) := by
  obtain ⟨expiry, hexpires, hsigned⟩ := exists_of_bind_eq_ok signed
  exact verify_of_eq_encode (eq_encode_of_signUntil hsigned)
    (isLive_of_sign calendar hexpires hsigned) hlater

theorem verify_of_signUntil (calendar : t.InCalendar)
    (signed : s.signUntil payload (some t) = .ok token) (hlater : later ≤ Instant.last) :
    s.verify token later = .ok (if later ≤ t.micros * 1000 then some payload else none) :=
  verify_of_eq_encode (eq_encode_of_signUntil signed) (isLive_of_signUntil calendar signed) hlater

/-- **Signing and verifying.** At any time from 1970 on, a token can be signed for a given time,
unless there is some time to live and it is longer than a clock can be moved by, or ends after the
calendar or in the microsecond zero. Then the signer fails for a cause of its own. A token that it
signs is verified to the payload at all times if it was signed for no time, and else just up to the
end of its time, rounded down to the microsecond. In the same way a token can be signed until any
instant of the calendar but those in the microsecond zero. So no token that was to expire is
accepted at the end of the calendar. -/
theorem signing_window (s : Signer) (payload : Bytes) :
    (∀ (ttl : Span) (now : Instant), 0 ≤ now → now ≤ Instant.last →
      ((∃ token, s.sign payload ttl now = .ok token) ↔
        ¬(0 < ttl ∧
          (Span.longest < ttl ∨ Instant.last < now + ttl ∨ Instant.micros (now + ttl) = 0))) ∧
      (∀ e, s.sign payload ttl now = .error e → ∃ fault, e = .internal fault) ∧
      ∀ token, s.sign payload ttl now = .ok token →
        (∀ later ≤ Instant.last, s.verify token later =
          .ok (if ttl = 0 ∨ later ≤ Instant.micros (now + ttl) * 1000 then some payload
            else none)) ∧
        (0 < ttl → s.verify token Instant.last = .ok none)) ∧
    (∀ t : Instant, t.InCalendar →
      ((∃ token, s.signUntil payload (some t) = .ok token) ↔ t.micros ≠ 0) ∧
      (∀ e, s.signUntil payload (some t) = .error e → e = .internal .neverExpires) ∧
      ∀ token, s.signUntil payload (some t) = .ok token →
        (∀ later ≤ Instant.last, s.verify token later =
          .ok (if later ≤ t.micros * 1000 then some payload else none)) ∧
        s.verify token Instant.last = .ok none) := by
  refine ⟨fun ttl now hepoch hnow => ⟨?_, fun e => exists_internal_of_sign hnow,
    fun token signed => ?_⟩, fun t calendar => ⟨?_, fun e failed => ?_, fun token signed => ?_⟩⟩
  · simp only [exists_sign_iff, hnow, true_and, Nat.pos_iff_ne_zero, not_and, not_or,
      Nat.not_lt, Int.not_lt, ne_eq]
    exact or_iff_not_imp_left
  · have calendar : Instant.first ≤ now := Int.le_trans (by decide) hepoch
    refine ⟨fun later => verify_of_sign calendar signed, fun hspan => ?_⟩
    rw [verify_of_sign calendar signed (Int.le_refl _)]
    refine congrArg Except.ok (if_neg ?_)
    rintro (hforever | hlast)
    · exact Nat.ne_of_gt hspan hforever
    · obtain hforever | ⟨-, -, hend, -⟩ := exists_sign_iff.1 ⟨token, signed⟩
      · exact Nat.ne_of_gt hspan hforever
      · exact Int.not_le.2 (Expiry.micros_mul_lt_last hend) hlast
  · rw [signUntil_some]
    split
    · next hzero => simp [hzero]
    · next hzero => simp [hzero]
  · rw [signUntil_some] at failed
    split at failed
    · exact (Except.error.inj failed).symm
    · cases failed
  · refine ⟨fun later => verify_of_signUntil calendar signed, ?_⟩
    rw [verify_of_signUntil calendar signed (Int.le_refl _)]
    exact congrArg Except.ok (if_neg (Int.not_le.2 (Expiry.micros_mul_lt_last calendar.2)))

/-- A token signed in 1970 for one and a half microseconds is accepted at the end of the first and
not a nanosecond later. It cannot be signed for less than a microsecond, but it can be signed until
the nanosecond before 1970. -/
theorem signing_window_microsecond :
    (∃ token, (ofText "secret").sign [1] 1500 0 = .ok token ∧
      (ofText "secret").verify token 1000 = .ok (some [1]) ∧
      (ofText "secret").verify token 1001 = .ok none) ∧
    (¬∃ token, (ofText "secret").sign [1] 999 0 = .ok token) ∧
    ∃ token, (ofText "secret").signUntil [1] (some (-1)) = .ok token ∧
      (ofText "secret").verify token (-1000) = .ok (some [1]) ∧
      (ofText "secret").verify token (-999) = .ok none := by
  obtain ⟨hspans, hinstants⟩ := signing_window (ofText "secret") [1]
  refine ⟨?_, fun hsigned => ?_, ?_⟩
  · obtain ⟨hsigned, -, hverified⟩ := hspans 1500 0 (by decide) (by decide)
    obtain ⟨token, signed⟩ := hsigned.2 (by decide)
    have hlater := (hverified token signed).1
    exact ⟨token, signed, (hlater 1000 (by decide)).trans rfl, (hlater 1001 (by decide)).trans rfl⟩
  · exact absurd ((hspans 999 0 (by decide) (by decide)).1.1 hsigned) (by decide)
  · obtain ⟨hsigned, -, hverified⟩ := hinstants (-1) (by decide)
    obtain ⟨token, signed⟩ := hsigned.2 (by decide)
    have hlater := (hverified token signed).1
    exact ⟨token, signed, (hlater (-1000) (by decide)).trans rfl,
      (hlater (-999) (by decide)).trans rfl⟩

end Signer

end Turnstile
