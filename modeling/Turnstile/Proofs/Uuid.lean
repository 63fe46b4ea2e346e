import Mathlib.Algebra.Ring.Nat
import Turnstile.Uuid

/-!
# Identifiers read back

An identifier is written with two hexadecimal digits for each byte, and a hyphen between the groups
of them. Both are undone by the reader. A drawn identifier carries the marks of version 4.

## Main definitions

- `Uuid.IsRandom` — the marks of a random identifier

## Main statements

- `Bytes.ofHexChars?_hexPair` — hexadecimal digits read back
- `Uuid.read?_render` — identifiers read back
- `Uuid.exists_random` — what is drawn is marked
-/

namespace Turnstile

namespace Bytes

theorem hexValue?_hexDigit {n : Nat} (h : n < 16) : hexValue? (hexDigit n) = some n := by
  have table : ∀ n < 16, hexValue? (hexDigit n) = some n := by decide
  exact table n h

theorem ofHexChars?_hexPair (bs : Bytes) : ofHexChars? (bs.flatMap hexPair) = some bs := by
  induction bs with
  | nil => rfl
  | cons b bs ih =>
    have hb := b.toNat_lt
    have hbyte : UInt8.ofNat (b.toNat / 16 * 16 + b.toNat % 16) = b := by
      rw [Nat.div_add_mod', UInt8.ofNat_toNat]
    rw [List.flatMap_cons, hexPair, List.cons_append, List.cons_append,
      List.nil_append, ofHexChars?, hexValue?_hexDigit (by omega),
      hexValue?_hexDigit (Nat.mod_lt _ (by decide)), ih]
    simp only [Option.bind_eq_bind, Option.bind_some, hbyte]
    rfl

theorem length_flatMap_hexPair (bs : Bytes) : (bs.flatMap hexPair).length = 2 * bs.length := by
  induction bs with
  | nil => rfl
  | cons b bs ih =>
    rw [List.flatMap_cons, List.length_append, ih, List.length_cons, hexPair]
    simp only [List.length_cons, List.length_nil]
    omega

end Bytes

namespace Uuid

/-- The marks of a random identifier: version 4 in the seventh byte and the variant in the ninth. -/
def IsRandom (u : Uuid) : Prop :=
  ∃ version variant, u.bytes[6]? = some version ∧ u.bytes[8]? = some variant ∧
    version.toNat / 16 = 4 ∧ variant.toNat / 64 = 2

/-! ### Reading -/

theorem dropHyphens?_hyphenate (groups : List Nat) (cs : List Char)
    (h : 2 * groups.sum ≤ cs.length) :
    dropHyphens? groups (hyphenate groups cs) = some cs := by
  fun_induction hyphenate groups cs with
  | case1 cs => rfl
  | case2 cs n => rfl
  | case3 n rest cs hrest ih =>
    rw [List.sum_cons] at h
    have hfront : (cs.take (2 * n)).length = 2 * n := List.length_take_of_le (by omega)
    have hdrop : (cs.take (2 * n) ++ '-' :: hyphenate rest (cs.drop (2 * n))).drop (2 * n) =
        '-' :: hyphenate rest (cs.drop (2 * n)) := List.drop_left' hfront
    have htake : (cs.take (2 * n) ++ '-' :: hyphenate rest (cs.drop (2 * n))).take (2 * n) =
        cs.take (2 * n) := List.take_left' hfront
    rw [dropHyphens?.eq_3 _ _ _ hrest, hdrop, htake]
    simp only [ih (by rw [List.length_drop]; omega), Option.map_some, List.take_append_drop]

theorem length_hyphenate (groups : List Nat) (cs : List Char) (h : 2 * groups.sum ≤ cs.length) :
    (hyphenate groups cs).length = cs.length + (groups.length - 1) := by
  fun_induction hyphenate groups cs with
  | case1 cs => rfl
  | case2 cs n => rfl
  | case3 n rest cs hrest ih =>
    rw [List.sum_cons] at h
    have hpos : 0 < rest.length := List.length_pos_iff.2 hrest
    have hlength := ih (by rw [List.length_drop]; omega)
    rw [List.length_append, List.length_cons, hlength, List.length_take, List.length_drop,
      List.length_cons]
    omega

/-- The hyphenated form reads back as its identifier. -/
theorem read?_render (u : Uuid) : read? u.render = some u := by
  have hdigits : (u.bytes.flatMap Bytes.hexPair).length = 32 := by
    rw [Bytes.length_flatMap_hexPair, u.length_bytes]
  have hgroups : 2 * groups.sum ≤ (u.bytes.flatMap Bytes.hexPair).length := by
    rw [hdigits]
    decide
  have hlength : (hyphenate groups (u.bytes.flatMap Bytes.hexPair)).length = 36 := by
    rw [length_hyphenate _ _ hgroups, hdigits]
    rfl
  rw [read?, render, String.toList_ofList]
  simp only [hlength]
  rw [if_neg (by decide), if_pos trivial, readHyphenated?, dropHyphens?_hyphenate _ _ hgroups]
  simp only [Option.bind_eq_bind, Option.bind_some, ofDigits?, Bytes.ofHexChars?_hexPair,
    u.length_bytes]
  rfl

/-! ### Drawing -/

theorem isRandom_ofRandom (bs : Bytes) (h : bs.length = 16) : (ofRandom bs h).IsRandom := by
  have hversion : ∀ n < 256, (mark 6 (UInt8.ofNat n)).toNat / 16 = 4 := by decide +kernel
  have hvariant : ∀ n < 256, (mark 8 (UInt8.ofNat n)).toNat / 64 = 2 := by decide +kernel
  have hseventh : (ofRandom bs h).bytes[6]? = some (mark 6 bs[6]) := by
    simp [ofRandom, h]
  have hninth : (ofRandom bs h).bytes[8]? = some (mark 8 bs[8]) := by
    simp [ofRandom, h]
  refine ⟨_, _, hseventh, hninth, ?_, ?_⟩
  · simpa using hversion bs[6].toNat bs[6].toNat_lt
  · simpa using hvariant bs[8].toNat bs[8].toNat_lt

/-- A source that has bytes yields a random identifier. -/
theorem exists_random {source : Entropy} (hsource : source.bytes ≠ []) :
    ∃ u, random source = .ok u ∧ u.IsRandom := by
  have hdraw : source.draw 16 = .ok (Entropy.cycle source.bytes 16) := by
    rw [Entropy.draw, if_neg (by decide), if_neg hsource]
  refine ⟨ofRandom _ (Entropy.length_of_draw hdraw), ?_, isRandom_ofRandom _ _⟩
  unfold random
  split
  · next bs h =>
    rw [hdraw] at h
    obtain rfl := Except.ok.inj h
    rfl
  · next e h =>
    rw [hdraw] at h
    cases h

end Uuid

end Turnstile
