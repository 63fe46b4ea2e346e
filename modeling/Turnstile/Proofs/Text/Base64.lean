import Turnstile.Text.Base64

/-!
# Base64 is canonical

Reading and writing are inverse to each other: every byte string has one written form, and nothing
else is read. What a reader refuses (padding that is missing, spare or misplaced, characters outside
the alphabet, unused bits that are not zero) is therefore just what the writer never produces.

## Main statements

- `Base64.decode?_eq_some_iff` — reading accepts exactly what writing produces
- `Base64.not_mem_encode` — the characters that never occur in a written form
-/

namespace Turnstile.Base64

/-! ### Digits -/

/-- The digit of a number below 64 has that number as its value. -/
theorem value?_digit {n : Nat} (h : n < 64) : value? (digit n) = some n := by
  have table : ∀ n < 64, value? (digit n) = some n := by decide
  exact table n h

theorem value?_pad : value? '=' = none := by decide

theorem digit_ne_pad {n : Nat} (h : n < 64) : digit n ≠ '=' := by
  intro heq
  have hval := value?_digit h
  rw [heq, value?_pad] at hval
  cases hval

/-- A character with a value is the digit of that value. -/
theorem digit_of_value? {c : Char} {n : Nat} (h : value? c = some n) : n < 64 ∧ digit n = c := by
  have hchar : ∀ m, m = c.toNat → Char.ofNat m = c := by
    intro m hm
    rw [hm, Char.ofNat_toNat]
  have hle : ∀ a b : Char, a ≤ b ↔ a.toNat ≤ b.toNat := fun _ _ => Iff.rfl
  unfold value? at h
  simp only [hle, show 'A'.toNat = 65 from rfl, show 'Z'.toNat = 90 from rfl,
    show 'a'.toNat = 97 from rfl, show 'z'.toNat = 122 from rfl,
    show '0'.toNat = 48 from rfl, show '9'.toNat = 57 from rfl] at h
  -- one range of the alphabet after the other, each with its own offset
  split at h
  · obtain rfl := Option.some.inj h
    refine ⟨by omega, ?_⟩
    rw [digit, if_pos (by omega)]
    exact hchar _ (by omega)
  split at h
  · obtain rfl := Option.some.inj h
    refine ⟨by omega, ?_⟩
    rw [digit, if_neg (by omega), if_pos (by omega)]
    exact hchar _ (by omega)
  split at h
  · obtain rfl := Option.some.inj h
    refine ⟨by omega, ?_⟩
    rw [digit, if_neg (by omega), if_neg (by omega), if_pos (by omega)]
    exact hchar _ (by omega)
  split at h
  · obtain rfl := Option.some.inj h
    subst c
    exact ⟨by decide, by decide⟩
  split at h
  · obtain rfl := Option.some.inj h
    subst c
    exact ⟨by decide, by decide⟩
  · cases h

/-! ### Whole texts -/

theorem ofNat_eq_of_toNat {a : UInt8} {n : Nat} (h : n = a.toNat) : UInt8.ofNat n = a := by
  rw [h, UInt8.ofNat_toNat]

theorem decode?_encode (bs : Bytes) : decode? (encode bs) = some bs := by
  fun_induction encode bs with
  | case1 => rfl
  | case2 a =>
    have ha := a.toNat_lt
    rw [decode?, value?_digit (by omega), value?_digit (by omega)]
    simp only [Option.bind_eq_bind, Option.bind_some, and_self, if_true, decodeOne?]
    rw [if_pos (by omega), ofNat_eq_of_toNat (a := a) (by omega)]
  | case3 a b =>
    have ha := a.toNat_lt
    have hb := b.toNat_lt
    rw [decode?, value?_digit (by omega), value?_digit (by omega), value?_digit (by omega)]
    simp only [Option.bind_eq_bind, Option.bind_some, and_true, digit_ne_pad
      (show b.toNat % 16 * 4 < 64 by omega), if_false, and_self, if_true, decodeTwo?]
    rw [if_pos (by omega), ofNat_eq_of_toNat (a := a) (by omega),
      ofNat_eq_of_toNat (a := b) (by omega)]
  | case4 a b c rest ih =>
    have ha := a.toNat_lt
    have hb := b.toNat_lt
    have hc := c.toNat_lt
    rw [decode?, value?_digit (by omega), value?_digit (by omega), value?_digit (by omega),
      value?_digit (by omega), ih]
    simp only [Option.bind_eq_bind, Option.bind_some, digit_ne_pad
      (show b.toNat % 16 * 4 + c.toNat / 64 < 64 by omega), digit_ne_pad
      (show c.toNat % 64 < 64 by omega), false_and, if_false]
    rw [ofNat_eq_of_toNat (a := a) (by omega), ofNat_eq_of_toNat (a := b) (by omega),
      ofNat_eq_of_toNat (a := c) (by omega)]
    rfl

/-- A group of two digits is the written form of the byte it reads as. -/
theorem encode_of_decodeOne? {v w : Nat} {bs : Bytes} (hv : v < 64) (hw : w < 64)
    (h : decodeOne? v w = some bs) : encode bs = [digit v, digit w, '=', '='] := by
  unfold decodeOne? at h
  split at h
  · obtain rfl := Option.some.inj h
    have hbyte : (UInt8.ofNat (v * 4 + w / 16)).toNat = v * 4 + w / 16 :=
      Bytes.toNat_byte (by omega)
    rw [encode, hbyte, show (v * 4 + w / 16) / 4 = v by omega,
      show (v * 4 + w / 16) % 4 * 16 = w by omega]
  · cases h

theorem encode_of_decodeTwo? {v w x : Nat} {bs : Bytes} (hv : v < 64) (hw : w < 64) (hx : x < 64)
    (h : decodeTwo? v w x = some bs) : encode bs = [digit v, digit w, digit x, '='] := by
  unfold decodeTwo? at h
  split at h
  · obtain rfl := Option.some.inj h
    have hfirst : (UInt8.ofNat (v * 4 + w / 16)).toNat = v * 4 + w / 16 :=
      Bytes.toNat_byte (by omega)
    have hsecond : (UInt8.ofNat (w % 16 * 16 + x / 4)).toNat = w % 16 * 16 + x / 4 :=
      Bytes.toNat_byte (by omega)
    rw [encode, hfirst, hsecond, show (v * 4 + w / 16) / 4 = v by omega,
      show (v * 4 + w / 16) % 4 * 16 + (w % 16 * 16 + x / 4) / 16 = w by omega,
      show (w % 16 * 16 + x / 4) % 16 * 4 = x by omega]
  · cases h

/-- A full group is the written form of the three bytes it reads as. -/
theorem encode_group {v w x y : Nat} (hv : v < 64) (hw : w < 64) (hx : x < 64) (hy : y < 64)
    (rest : Bytes) :
    encode (UInt8.ofNat (v * 4 + w / 16) :: UInt8.ofNat (w % 16 * 16 + x / 4)
      :: UInt8.ofNat (x % 4 * 64 + y) :: rest) =
    digit v :: digit w :: digit x :: digit y :: encode rest := by
  have hfirst : (UInt8.ofNat (v * 4 + w / 16)).toNat = v * 4 + w / 16 :=
    Bytes.toNat_byte (by omega)
  have hsecond : (UInt8.ofNat (w % 16 * 16 + x / 4)).toNat = w % 16 * 16 + x / 4 :=
    Bytes.toNat_byte (by omega)
  have hthird : (UInt8.ofNat (x % 4 * 64 + y)).toNat = x % 4 * 64 + y :=
    Bytes.toNat_byte (by omega)
  rw [encode, hfirst, hsecond, hthird, show (v * 4 + w / 16) / 4 = v by omega,
    show (v * 4 + w / 16) % 4 * 16 + (w % 16 * 16 + x / 4) / 16 = w by omega,
    show (w % 16 * 16 + x / 4) % 16 * 4 + (x % 4 * 64 + y) / 64 = x by omega,
    show (x % 4 * 64 + y) % 64 = y by omega]

theorem eq_encode_of_decode? {cs : List Char} {bs : Bytes} (h : decode? cs = some bs) :
    cs = encode bs := by
  fun_induction decode? cs generalizing bs with
  | case1 =>
    obtain rfl := Option.some.inj h
    rfl
  | case2 p q r s rest ih =>
    obtain ⟨v, hp, h₁⟩ := Option.bind_eq_some_iff.1 h
    obtain ⟨w, hq, h₂⟩ := Option.bind_eq_some_iff.1 h₁
    clear h h₁
    obtain ⟨hv, rfl⟩ := digit_of_value? hp
    obtain ⟨hw, rfl⟩ := digit_of_value? hq
    -- only the last group may be padded, so a padded one is the rest of the text
    split at h₂
    · next hpad =>
      obtain ⟨rfl, rfl, rfl⟩ := hpad
      exact (encode_of_decodeOne? hv hw h₂).symm
    · obtain ⟨x, hr, h₃⟩ := Option.bind_eq_some_iff.1 h₂
      obtain ⟨hx, rfl⟩ := digit_of_value? hr
      split at h₃
      · next hpad =>
        obtain ⟨rfl, rfl⟩ := hpad
        exact (encode_of_decodeTwo? hv hw hx h₃).symm
      · obtain ⟨y, hs, h₄⟩ := Option.bind_eq_some_iff.1 h₃
        obtain ⟨tail, hrest, h₅⟩ := Option.bind_eq_some_iff.1 h₄
        obtain ⟨hy, rfl⟩ := digit_of_value? hs
        obtain rfl := Option.some.inj h₅
        rw [encode_group hv hw hx hy, ih hrest]
  | case3 => cases h

/-- Reading accepts exactly what writing produces. -/
theorem decode?_eq_some_iff {cs : List Char} {bs : Bytes} :
    decode? cs = some bs ↔ cs = encode bs := by
  constructor
  · exact eq_encode_of_decode?
  · rintro rfl
    exact decode?_encode bs

/-- A character that is neither a digit nor padding does not occur in a written form. -/
theorem not_mem_encode {c : Char} (hdigit : value? c = none) (hpad : c ≠ '=') (bs : Bytes) :
    c ∉ encode bs := by
  have hne : ∀ n < 64, c ≠ digit n := by
    intro n hn heq
    rw [heq, value?_digit hn] at hdigit
    cases hdigit
  fun_induction encode bs with
  | case1 => exact List.not_mem_nil
  | case2 a =>
    have ha := a.toNat_lt
    simp [hpad, hne _ (show a.toNat / 4 < 64 by omega), hne _ (show a.toNat % 4 * 16 < 64 by omega)]
  | case3 a b =>
    have ha := a.toNat_lt
    have hb := b.toNat_lt
    simp [hpad, hne _ (show a.toNat / 4 < 64 by omega),
      hne _ (show a.toNat % 4 * 16 + b.toNat / 16 < 64 by omega),
      hne _ (show b.toNat % 16 * 4 < 64 by omega)]
  | case4 a b c rest ih =>
    have ha := a.toNat_lt
    have hb := b.toNat_lt
    have hc := c.toNat_lt
    simp [ih, hne _ (show a.toNat / 4 < 64 by omega),
      hne _ (show a.toNat % 4 * 16 + b.toNat / 16 < 64 by omega),
      hne _ (show b.toNat % 16 * 4 + c.toNat / 64 < 64 by omega),
      hne _ (show c.toNat % 64 < 64 by omega)]

theorem toNat_lt_of_value? {c : Char} {n : Nat} (h : value? c = some n) : c.toNat < 0x7F := by
  have hle : ∀ d : Char, c ≤ d → c.toNat ≤ d.toNat := fun d hd => hd
  unfold value? at h
  split at h
  · next hc => exact Nat.lt_of_le_of_lt (hle 'Z' hc.2) (by decide)
  split at h
  · next hc => exact Nat.lt_of_le_of_lt (hle 'z' hc.2) (by decide)
  split at h
  · next hc => exact Nat.lt_of_le_of_lt (hle '9' hc.2) (by decide)
  split at h
  · next hc => exact hc ▸ (by decide)
  split at h
  · next hc => exact hc ▸ (by decide)
  · cases h

/-- A written form is made of visible ASCII characters. -/
theorem toNat_lt_of_mem_encode {c : Char} {bs : Bytes} (h : c ∈ encode bs) : c.toNat < 0x7F := by
  cases hvalue : value? c with
  | some n => exact toNat_lt_of_value? hvalue
  | none =>
    by_cases hpad : c = '='
    · exact hpad ▸ (by decide)
    · exact absurd h (not_mem_encode hvalue hpad bs)

end Turnstile.Base64
