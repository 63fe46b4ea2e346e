import Turnstile.Proofs.Text.Runs
import Turnstile.Yaml.Printer

/-!
# Spellings are words

Null, the truth values and the numbers are all spelled with letters, digits and a few signs. A text
that is not read as a text when it is written plain is one of these spellings, so nothing in it
stands in the way of quotes. What else the style chosen for a text says about it follows from the
rules that it is chosen by.

## Main definitions

- `Yaml.isSpellingChar` — the characters of spellings

## Main statements

- `Yaml.isSpellingChar_of_not_readsAsText` — a text that would be taken for something else is a
  spelling
- `Yaml.Style.ofText_eq_plain`, `Yaml.Style.ofText_eq_singleQuoted`, `Yaml.Style.ofText_eq_literal`
  — what the style chosen for a text says about it
-/

namespace Turnstile.Yaml

/-- Whether a character may stand in the spelling of null, a truth value or a number. -/
def isSpellingChar (c : Char) : Bool :=
  c.isAlphanum || c = '+' || c = '-' || c = '.' || c = '~'

variable {s : String} {cs : List Char}

/-- Letters and digits by their code points. -/
theorem isAlphanum_iff {c : Char} : c.isAlphanum = true ↔
    ((65 ≤ c.toNat ∧ c.toNat ≤ 90) ∨ (97 ≤ c.toNat ∧ c.toNat ≤ 122)) ∨
    (48 ≤ c.toNat ∧ c.toNat ≤ 57) := by
  have hupper : c.isUpper = true ↔ 65 ≤ c.toNat ∧ c.toNat ≤ 90 := decide_eq_true_iff
  have hlower : c.isLower = true ↔ 97 ≤ c.toNat ∧ c.toNat ≤ 122 :=
    Bool.and_eq_true_iff.trans (and_congr decide_eq_true_iff decide_eq_true_iff)
  have hdigit : c.isDigit = true ↔ 48 ≤ c.toNat ∧ c.toNat ≤ 57 :=
    Bool.and_eq_true_iff.trans (and_congr decide_eq_true_iff decide_eq_true_iff)
  exact Bool.or_eq_true_iff.trans
    (or_congr (Bool.or_eq_true_iff.trans (or_congr hupper hlower)) hdigit)

/-- The characters of spellings can be printed, and there are no gaps among them. -/
theorem of_isSpellingChar {c : Char} (h : isSpellingChar c = true) :
    isPrintable c = true ∧ isBreakChar c = false ∧ c ≠ ' ' := by
  have hrange : 0x20 < c.toNat ∧ c.toNat ≤ 0x7E := by
    simp only [isSpellingChar, Bool.or_eq_true, decide_eq_true_eq] at h
    rcases h with (((h | rfl) | rfl) | rfl) | rfl
    · have hcode := isAlphanum_iff.1 h
      omega
    all_goals decide
  refine ⟨?_, ?_, ?_⟩
  · have hprintable : 0x20 ≤ c.toNat ∧ c.toNat ≤ 0x7E := ⟨by omega, by omega⟩
    simp [isPrintable, hprintable]
  · rw [Bool.eq_false_iff]
    intro hbreak
    simp only [isBreakChar, Bool.or_eq_true, decide_eq_true_eq] at hbreak
    rcases hbreak with (((rfl | rfl) | rfl) | rfl) | rfl <;> exact absurd hrange (by decide)
  · rintro rfl
    exact absurd hrange (by decide)

theorem isSpellingChar_of_isAlphanum {c : Char} (h : c.isAlphanum = true) :
    isSpellingChar c = true := by
  simp [isSpellingChar, h]

theorem isSpellingChar_of_isDigit {c : Char} (h : c.isDigit = true) : isSpellingChar c = true :=
  isSpellingChar_of_isAlphanum (by rw [Char.isAlphanum, h, Bool.or_true])

theorem isSpellingChar_of_hexValue? {c : Char} {n : Nat} (h : Bytes.hexValue? c = some n) :
    isSpellingChar c = true := by
  refine isSpellingChar_of_isAlphanum ?_
  unfold Bytes.hexValue? at h
  split at h
  · next hdigit =>
    have hcode : 48 ≤ c.toNat ∧ c.toNat ≤ 57 := hdigit
    exact isAlphanum_iff.2 (Or.inr hcode)
  · split at h
    · next hlower =>
      have hcode : 97 ≤ c.toNat ∧ c.toNat ≤ 102 := hlower
      exact isAlphanum_iff.2 (Or.inl (Or.inr ⟨hcode.1, by omega⟩))
    · split at h
      · next hupper =>
        have hcode : 65 ≤ c.toNat ∧ c.toNat ≤ 70 := hupper
        exact isAlphanum_iff.2 (Or.inl (Or.inl ⟨hcode.1, by omega⟩))
      · cases h

theorem isSpellingChar_of_contains {words : List String}
    (hwords : (words.all fun w => w.toList.all isSpellingChar) = true)
    (h : words.contains s = true) :
    ∀ c ∈ s.toList, isSpellingChar c = true :=
  List.all_eq_true.1 (List.all_eq_true.1 hwords s (List.contains_iff_mem.1 h))

theorem isSpellingChar_of_bool? {b : Bool} (h : bool? s = some b) :
    ∀ c ∈ s.toList, isSpellingChar c = true := by
  unfold bool? at h
  split at h
  · next htrue => exact isSpellingChar_of_contains (by decide) htrue
  · split at h
    · next hfalse => exact isSpellingChar_of_contains (by decide) hfalse
    · cases h

theorem isSpellingChar_of_takeSign (h : ∀ c ∈ (Decimal.takeSign cs).2, isSpellingChar c = true) :
    ∀ c ∈ cs, isSpellingChar c = true := by
  unfold Decimal.takeSign at h
  split at h
  · exact List.forall_mem_cons.2 ⟨rfl, h⟩
  · exact List.forall_mem_cons.2 ⟨rfl, h⟩
  · exact h

theorem isSpellingChar_of_readDigits? {n : Nat} (h : Text.readDigits? cs = some n) :
    ∀ c ∈ cs, isSpellingChar c = true := by
  unfold Text.readDigits? at h
  split at h
  · next hdigits => exact fun c hc => isSpellingChar_of_isDigit (List.all_eq_true.1 hdigits.2 c hc)
  · cases h

theorem isSpellingChar_of_hasLeadingZeros (h : hasLeadingZeros cs = true) :
    ∀ c ∈ cs, isSpellingChar c = true := by
  refine isSpellingChar_of_takeSign fun c hc => ?_
  simp only [hasLeadingZeros, Bool.and_eq_true] at h
  exact isSpellingChar_of_isDigit (List.all_eq_true.1 h.2 c hc)

theorem exists_of_mapM_eq_some {values : List Nat}
    (h : cs.mapM Bytes.hexValue? = some values) {c : Char} (hc : c ∈ cs) :
    ∃ n, Bytes.hexValue? c = some n := by
  induction cs generalizing values with
  | nil => cases hc
  | cons d cs ih =>
    rw [List.mapM_cons] at h
    cases hd : Bytes.hexValue? d with
    | none =>
      rw [hd] at h
      cases h
    | some n =>
      cases hrest : cs.mapM Bytes.hexValue? with
      | none =>
        rw [hd, hrest] at h
        cases h
      | some later =>
        rcases List.mem_cons.1 hc with rfl | hc
        · exact ⟨n, hd⟩
        · exact ih hrest hc

theorem isSpellingChar_of_inBase? {base n : Nat} (h : inBase? base cs = some n) :
    ∀ c ∈ cs, isSpellingChar c = true := by
  intro c hc
  unfold inBase? at h
  cases hvalues : cs.mapM Bytes.hexValue? with
  | none =>
    rw [hvalues] at h
    cases h
  | some values =>
    obtain ⟨n, hn⟩ := exists_of_mapM_eq_some hvalues hc
    exact isSpellingChar_of_hexValue? hn

theorem isSpellingChar_of_magnitude? {n : Nat} (h : magnitude? cs = some n) :
    ∀ c ∈ cs, isSpellingChar c = true := by
  unfold magnitude? at h
  split at h
  · next mark rest =>
    split at h
    · next base hbase =>
      have hmark : isSpellingChar mark = true := by
        unfold base? at hbase
        split at hbase <;> first | rfl | cases hbase
      exact List.forall_mem_cons.2
        ⟨rfl, List.forall_mem_cons.2 ⟨hmark, isSpellingChar_of_inBase? h⟩⟩
    · split at h
      · cases h
      · exact isSpellingChar_of_readDigits? h
  · exact isSpellingChar_of_readDigits? h

theorem isSpellingChar_of_natural? {n : Nat} (h : natural? s = some n) :
    ∀ c ∈ s.toList, isSpellingChar c = true := by
  unfold natural? at h
  split at h
  · next rest hs =>
    rw [hs]
    exact List.forall_mem_cons.2 ⟨rfl, isSpellingChar_of_magnitude? h⟩
  · exact isSpellingChar_of_magnitude? h

theorem isSpellingChar_of_integer? {n : Int} (h : integer? s = some n) :
    ∀ c ∈ s.toList, isSpellingChar c = true := by
  unfold integer? at h
  split at h
  · next rest hs =>
    cases hm : magnitude? rest with
    | none =>
      rw [hm] at h
      cases h
    | some m =>
      rw [hs]
      exact List.forall_mem_cons.2 ⟨rfl, isSpellingChar_of_magnitude? hm⟩
  · obtain ⟨m, hm, -⟩ := Option.map_eq_some_iff.1 h
    exact isSpellingChar_of_natural? hm

theorem isSpellingChar_of_exponent? {n : Int} (h : Decimal.exponent? cs = some n) :
    ∀ c ∈ cs, isSpellingChar c = true := by
  unfold Decimal.exponent? at h
  split at h
  · nofun
  · next c rest =>
    split at h
    · next hmark =>
      cases hn : Text.readDigits? (Decimal.takeSign rest).2 with
      | none =>
        simp [hn] at h
      | some m =>
        have hc : isSpellingChar c = true := by rcases hmark with rfl | rfl <;> rfl
        exact List.forall_mem_cons.2
          ⟨hc, isSpellingChar_of_takeSign (isSpellingChar_of_readDigits? hn)⟩
    · cases h

/-- Digits in front of a spelling make another one. -/
theorem isSpellingChar_of_takeWhile
    (h : ∀ c ∈ cs.drop (cs.takeWhile Char.isDigit).length, isSpellingChar c = true) :
    ∀ c ∈ cs, isSpellingChar c = true := by
  obtain ⟨run, rest, rfl, hrun, hstop⟩ := Text.exists_run Char.isDigit cs
  rw [Text.takeWhile_run hrun hstop, List.drop_left] at h
  intro c hc
  rcases List.mem_append.1 hc with hc | hc
  · exact isSpellingChar_of_isDigit (hrun c hc)
  · exact h c hc

theorem isSpellingChar_of_ofChars? {d : Decimal} (h : Decimal.ofChars? cs = some d) :
    ∀ c ∈ cs, isSpellingChar c = true := by
  refine isSpellingChar_of_takeSign (isSpellingChar_of_takeWhile ?_)
  unfold Decimal.ofChars? at h
  simp only [Option.bind_eq_bind, Option.bind_eq_some_iff] at h
  obtain ⟨-, -, exponent, hexponent, -⟩ := h
  generalize (Decimal.takeSign cs).2 = cs at hexponent ⊢
  generalize cs.drop (cs.takeWhile Char.isDigit).length = rest at hexponent ⊢
  split at hexponent
  · next hpoint =>
    obtain ⟨rest, rfl⟩ : ∃ later, rest = '.' :: later := List.head?_eq_some_iff.1 hpoint
    have hfraction := isSpellingChar_of_exponent? hexponent
    rw [List.drop_one, List.tail_cons, Nat.add_comm, List.drop_succ_cons] at hfraction
    exact List.forall_mem_cons.2 ⟨rfl, isSpellingChar_of_takeWhile hfraction⟩
  · exact isSpellingChar_of_exponent? hexponent

theorem isSpellingChar_of_isFraction (h : isFraction s = true) :
    ∀ c ∈ s.toList, isSpellingChar c = true := by
  rw [isFraction, Bool.or_eq_true] at h
  rcases h with h | h
  · exact isSpellingChar_of_contains (by decide) h
  · cases hd : Decimal.ofChars? s.toList with
    | none =>
      rw [hd] at h
      cases h
    | some d => exact isSpellingChar_of_ofChars? hd

/-- A text that would be taken for something else, or for a number, is a spelling. -/
theorem isSpellingChar_of_not_readsAsText (h : readsAsText s = false) :
    ∀ c ∈ s.toList, isSpellingChar c = true := by
  have hfraction : fractionOrText s ≠ .text s → ∀ c ∈ s.toList, isSpellingChar c = true := by
    intro hne
    unfold fractionOrText at hne
    split at hne
    · next hreal => exact isSpellingChar_of_isFraction (Bool.and_eq_true_iff.1 hreal).2
    · exact absurd rfl hne
  by_cases hzeros : hasLeadingZeros s.toList = true
  · exact isSpellingChar_of_hasLeadingZeros hzeros
  have hmeaning : plainMeaning? s ≠ some (.text s) := by
    intro hmeaning
    rw [readsAsText, hmeaning] at h
    simp [hzeros] at h
  -- the rules in the order in which a plain scalar is tried against them
  unfold plainMeaning? at hmeaning
  split at hmeaning
  · next hvacant =>
    rcases Bool.or_eq_true_iff.1 hvacant with hempty | hnull
    · rw [of_decide_eq_true hempty]
      nofun
    · exact isSpellingChar_of_contains (by decide) hnull
  · split at hmeaning
    · next b hbool => exact isSpellingChar_of_bool? hbool
    · split at hmeaning
      · exact hfraction fun heq => hmeaning (congrArg some heq)
      · next n hn => exact isSpellingChar_of_integer? hn

/-! ### Styles -/

namespace Style

theorem ofText_eq_plain (h : ofText s = .plain) :
    readsAsText s = true ∧ (∀ x ∈ s.toList, isPrintable x = true) ∧ isCompact s.toList = true ∧
      hasMark s.toList = false := by
  unfold ofText at h
  grind

theorem ofText_eq_singleQuoted (h : ofText s = .singleQuoted) :
    '\n' ∉ s.toList ∧ (readsAsText s = false ∨ ((∀ x ∈ s.toList, isPrintable x = true) ∧
      hasAdjacent (· = ' ') isBreakChar s.toList = false ∧
      hasAdjacent isBreakChar (· = ' ') s.toList = false)) := by
  unfold ofText at h
  grind

theorem ofText_eq_literal (h : ofText s = .literal) :
    s.toList ≠ [] ∧ ∀ x ∈ s.toList, isPrintable x = true := by
  have hparts : '\n' ∈ s.toList ∧ s.toList.all isPrintable = true := by
    unfold ofText at h
    grind
  exact ⟨List.ne_nil_of_mem hparts.1, List.all_eq_true.1 hparts.2⟩

theorem ofText_ne_folded (s : String) : ofText s ≠ .folded := by
  unfold ofText
  grind

end Style

end Turnstile.Yaml
