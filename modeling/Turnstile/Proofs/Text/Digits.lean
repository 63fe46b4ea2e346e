import Mathlib.Algebra.Ring.Nat
import Turnstile.Text.Blank
import Turnstile.Text.Digits

/-!
# Numbers read back from their digits

The decimal digits of a number, with or without zeros in front, have that number as their value, and
a field of a given width is filled exactly by the numbers that fit in it.

## Main statements

- `Text.digitsValue_padded` — digits have their number as their value
- `Text.length_padded` — the width of a field
-/

namespace Turnstile.Text

theorem digitValue_digitChar {d : Nat} (h : d < 10) : digitValue (Nat.digitChar d) = d := by
  have table : ∀ d < 10, digitValue (Nat.digitChar d) = d := by decide
  exact table d h

theorem digitsValue_append (cs : List Char) (c : Char) :
    digitsValue (cs ++ [c]) = digitsValue cs * 10 + digitValue c := by
  rw [digitsValue, List.foldl_append]
  rfl

theorem digitsValue_toDigits (n : Nat) : digitsValue (Nat.toDigits 10 n) = n := by
  induction n using Nat.strongRecOn with
  | ind n ih =>
    rw [Nat.toDigits_eq_if (by decide)]
    split
    · next hlt => exact (Nat.zero_add _).trans (digitValue_digitChar hlt)
    · next hle =>
      rw [digitsValue_append, ih (n / 10) (by omega),
        digitValue_digitChar (Nat.mod_lt _ (by decide))]
      omega

/-- Zeros in front do not count. -/
theorem digitsValue_replicate_append (k : Nat) (cs : List Char) :
    digitsValue (List.replicate k '0' ++ cs) = digitsValue cs := by
  have hzeros : (List.replicate k '0').foldl (fun n c => n * 10 + digitValue c) 0 = 0 := by
    induction k with
    | zero => rfl
    | succ k ih =>
      rw [List.replicate_succ, List.foldl_cons]
      exact ih
  rw [digitsValue, List.foldl_append, hzeros]
  rfl

@[simp] theorem digitsValue_padded (width n : Nat) : digitsValue (padded width n) = n := by
  rw [padded, digitsValue_replicate_append, digitsValue_toDigits]

theorem isDigit_of_mem_padded {width n : Nat} {c : Char} (h : c ∈ padded width n) :
    c.isDigit = true := by
  rcases List.mem_append.1 h with h | h
  · rw [List.eq_of_mem_replicate h]
    rfl
  · exact Nat.isDigit_of_mem_toDigits (by decide) (by decide) h

theorem length_toDigits_pos (n : Nat) : 0 < (Nat.toDigits 10 n).length := by
  rw [Nat.toDigits_eq_if (by decide)]
  split
  · exact Nat.one_pos
  · simp

/-- A number that is not zero has no zero in front. -/
theorem head?_toDigits_ne_zero {n : Nat} (h : 0 < n) : (Nat.toDigits 10 n).head? ≠ some '0' := by
  have table : ∀ d < 10, 0 < d → Nat.digitChar d ≠ '0' := by decide
  induction n using Nat.strongRecOn with
  | ind n ih =>
    rw [Nat.toDigits_eq_if (by decide)]
    split
    · next hlt => exact fun hhead => table n hlt h (Option.some.inj hhead)
    · next hle =>
      have hfront := ih (n / 10) (by omega) (by omega)
      obtain ⟨c, cs, hcs⟩ :=
        List.exists_cons_of_ne_nil (List.ne_nil_of_length_pos (length_toDigits_pos (n / 10)))
      rw [hcs] at hfront ⊢
      exact hfront

/-- A number that fits fills a field exactly. -/
theorem length_padded {width n : Nat} (hwidth : 0 < width) (h : n < 10 ^ width) :
    (padded width n).length = width := by
  have hlength := (Nat.length_toDigits_le_iff (by decide) hwidth).2 h
  rw [padded, List.length_append, List.length_replicate]
  omega

theorem padded_ne_nil (width n : Nat) : padded width n ≠ [] := by
  have hpos := length_toDigits_pos n
  refine List.ne_nil_of_length_pos ?_
  rw [padded, List.length_append]
  omega

theorem exists_padded_cons (width n : Nat) :
    ∃ c cs, padded width n = c :: cs ∧ c.isDigit = true := by
  obtain ⟨c, cs, hcs⟩ := List.exists_cons_of_ne_nil (padded_ne_nil width n)
  have hmem : c ∈ padded width n := hcs ▸ List.mem_cons_self
  exact ⟨c, cs, hcs, isDigit_of_mem_padded hmem⟩

/-! ### Blanks -/

theorem isBlank_of_isDigit {c : Char} (h : c.isDigit = true) : isBlank c = false := by
  have hdigit : 48 ≤ c.toNat ∧ c.toNat ≤ 57 := by
    simpa [Char.isDigit, UInt32.le_iff_toNat_le] using h
  unfold isBlank
  simp only [Bool.or_eq_false_iff, Bool.and_eq_false_iff, decide_eq_false_iff_not,
    beq_eq_false_iff_ne]
  omega

theorem trimStart_cons {c : Char} (h : isBlank c = false) (rest : List Char) :
    trimStart (c :: rest) = c :: rest :=
  List.dropWhile_cons_of_neg (by simp [h])

theorem trimStart_padded_append (width n : Nat) (rest : List Char) :
    trimStart (padded width n ++ rest) = padded width n ++ rest := by
  obtain ⟨c, cs, hcs, hdigit⟩ := exists_padded_cons width n
  rw [hcs, List.cons_append, trimStart_cons (isBlank_of_isDigit hdigit)]

end Turnstile.Text
