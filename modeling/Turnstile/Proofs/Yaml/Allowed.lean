import Turnstile.Proofs.Yaml.Literal
import Turnstile.Proofs.Yaml.Quoted

/-!
# The characters of printed scalars

A YAML text may hold only some characters. What is printed for a text holds no others, whatever the
text is: one with other characters is written within double quotes, where such characters are
escaped.

## Main definitions

- `Yaml.Allowed` — a text holds only characters that it may hold

## Main statements

- `Yaml.allowed_scalarText` — a text in the style chosen for it
-/

namespace Turnstile.Yaml

/-- A text holds only characters that it may hold. -/
def Allowed (cs : List Char) : Prop := ∀ c ∈ cs, isAllowed c = true

variable {cs ds : List Char} {c : Char}

@[simp] theorem allowed_nil : Allowed [] := nofun

@[simp] theorem allowed_append : Allowed (cs ++ ds) ↔ Allowed cs ∧ Allowed ds :=
  List.forall_mem_append

@[simp] theorem allowed_cons : Allowed (c :: cs) ↔ isAllowed c = true ∧ Allowed cs :=
  List.forall_mem_cons

theorem isAllowed_of_isPrintable (h : isPrintable c = true) : isAllowed c = true := by
  have hchar : c.toNat < 0xD800 ∨ (0xDFFF < c.toNat ∧ c.toNat < 0x110000) := c.valid
  simp only [isPrintable, isAllowed, Bool.or_eq_true, Bool.and_eq_true, decide_eq_true_eq] at h ⊢
  omega

theorem allowed_of_printable (h : ∀ c ∈ cs, isPrintable c = true) : Allowed cs :=
  fun c hc => isAllowed_of_isPrintable (h c hc)

@[simp] theorem allowed_spaces (n : Nat) : Allowed (spaces n) := by
  intro c hc
  rw [eq_space_of_mem_spaces hc]
  rfl

/-! ### Scalars -/

theorem allowed_hexDigits (width n : Nat) : Allowed (hexDigits width n) := by
  have htable : ∀ d < 16, isAllowed (Nat.digitChar d).toUpper = true := by decide
  intro c hc
  obtain ⟨k, -, rfl⟩ := List.mem_map.1 hc
  exact htable _ (Nat.mod_lt _ (by decide))

theorem isAllowed_of_escapeLetter? {letter : Char} (h : escapeLetter? c = some letter) :
    isAllowed letter = true := by
  unfold escapeLetter? at h
  split at h <;> cases h <;> rfl

theorem isAllowed_of_escapeDigits? {letter : Char} {width : Nat}
    (h : escapeDigits? letter = some width) :
    isAllowed letter = true := by
  unfold escapeDigits? at h
  split at h <;> first | rfl | cases h

theorem allowed_escape (c : Char) : Allowed (escape c) := by
  have hslash : isAllowed '\\' = true := rfl
  rcases escape_cases c with ⟨letter, hletter, heq⟩ | ⟨-, hprintable, heq⟩ |
    ⟨letter, width, hwidth, -, heq⟩
  · simp [heq, hslash, isAllowed_of_escapeLetter? hletter]
  · simp [heq, isAllowed_of_isPrintable hprintable]
  · simp [heq, hslash, isAllowed_of_escapeDigits? hwidth, allowed_hexDigits]

theorem allowed_flatMap_escape (cs : List Char) : Allowed (cs.flatMap escape) := by
  intro c hc
  obtain ⟨x, -, hx⟩ := List.mem_flatMap.1 hc
  exact allowed_escape x c hx

theorem allowed_singleQuoted (indent : Nat) (b : Bool) (h : Allowed cs) :
    Allowed (singleQuoted indent b cs) := by
  induction cs generalizing b with
  | nil => cases b <;> simp [singleQuoted]
  | cons x cs ih =>
    obtain ⟨hx, hcs⟩ := allowed_cons.1 h
    have hquote : isAllowed '\'' = true := rfl
    rw [singleQuoted]
    split
    · simp [hx, ih true hcs]
    · have hword : Allowed (if x = '\'' then ['\'', '\''] else [x]) := by
        split <;> simp [hx, hquote]
      cases b <;> simp [hword, ih false hcs]

theorem allowed_literalLines (indent : Nat) (b : Bool) (h : Allowed cs) :
    Allowed (literalLines indent b cs) := by
  induction cs generalizing b with
  | nil => simp [literalLines]
  | cons x cs ih =>
    obtain ⟨hx, hcs⟩ := allowed_cons.1 h
    rw [literalLines]
    split
    · simp [hx, ih true hcs]
    · cases b <;> simp [hx, ih false hcs]

theorem allowed_literalHeader (cs : List Char) : Allowed (literalHeader cs) := by
  rw [literalHeader_eq]
  have hmarks : isAllowed '|' = true ∧ isAllowed '2' = true ∧ isAllowed '-' = true ∧
      isAllowed '+' = true := by decide
  cases isHinted cs <;> cases chompOf cs <;> simp [chompMark, hmarks]

/-- A text in the style chosen for it holds only characters that it may hold. -/
theorem allowed_scalarText (indent : Nat) (s : String) :
    Allowed (scalarText indent (Style.ofText s) s.toList) := by
  cases hstyle : Style.ofText s with
  | plain => exact allowed_of_printable (PlainText.of_style hstyle).printable
  | singleQuoted =>
    have htext := allowed_of_printable (SingleText.of_style hstyle).printable
    have hquote : isAllowed '\'' = true := rfl
    simp [scalarText, hquote, allowed_singleQuoted indent false htext]
  | doubleQuoted =>
    have hquote : isAllowed '"' = true := rfl
    simp [scalarText, hquote, allowed_flatMap_escape]
  | literal =>
    have htext := allowed_of_printable (Style.ofText_eq_literal hstyle).2
    have hbreak : isAllowed '\n' = true := rfl
    simp [scalarText, hbreak, allowed_literalHeader, allowed_literalLines indent true htext]
  | folded => exact absurd hstyle (Style.ofText_ne_folded s)

theorem allowed_endLine (h : Allowed cs) : Allowed (endLine cs) := by
  have hbreak : isAllowed '\n' = true := rfl
  rcases eq_or_eq_append_of_endLine cs with ⟨heq, -⟩ | ⟨heq, -⟩ <;> simp [heq, h, hbreak]

end Turnstile.Yaml
