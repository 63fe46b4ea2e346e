import Turnstile.Json.Reader
import Turnstile.Json.Writer
import Turnstile.Proofs.Text.Utf8

/-!
# What is written as JSON reads back

A text is written as a literal in which some characters are escaped. The reader takes the literal
apart into pieces and puts these together again, and comes to the bytes of the text, whatever
characters there are in it. So an object of texts reads back as that object.

## Main definitions

- `Json.Reader.Spells` — what a stretch of a literal stands for
- `Json.ofTexts` — an object of texts

## Main statements

- `Json.Reader.spells_escapeChar` — one character, escaped or not, stands for itself
- `Json.read?_render_ofTexts` — objects of texts read back
-/

namespace Turnstile

theorem Utf8.encodeChars_append (cs ds : List Char) :
    encodeChars (cs ++ ds) = encodeChars cs ++ encodeChars ds :=
  List.flatMap_append

theorem Utf8.encodeChars_cons (c : Char) (cs : List Char) :
    encodeChars (c :: cs) = String.utf8EncodeChar c ++ encodeChars cs :=
  List.flatMap_cons

theorem Utf8.length_le_length_encodeChars (cs : List Char) :
    cs.length ≤ (encodeChars cs).length := by
  induction cs with
  | nil => exact Nat.zero_le _
  | cons c cs ih =>
    obtain ⟨a, tails, hbytes, -⟩ := front_encodeChar [] c
    rw [encodeChars_cons, hbytes, List.length_append, List.length_cons, List.length_cons]
    omega

namespace Json

namespace Reader

/-! ### String literals -/

/-- A stretch of a string literal stands for some bytes, whatever comes before and after it. -/
def Spells (spelled bytes : Bytes) : Prop :=
  ∃ pieces, (∀ rest, pieces? (spelled ++ rest) = (pieces? rest).map fun p => (pieces ++ p.1, p.2)) ∧
    ∀ more, assemble? (pieces ++ more) = (assemble? more).map (bytes ++ ·)

theorem spells_nil : Spells [] [] := by
  refine ⟨[], fun rest => ?_, fun more => ?_⟩
  · simp
  · simp

theorem Spells.append {spelled spelled' bytes bytes' : Bytes} (h : Spells spelled bytes)
    (h' : Spells spelled' bytes') : Spells (spelled ++ spelled') (bytes ++ bytes') := by
  obtain ⟨pieces, hpieces, hbytes⟩ := h
  obtain ⟨pieces', hpieces', hbytes'⟩ := h'
  refine ⟨pieces ++ pieces', fun rest => ?_, fun more => ?_⟩
  · rw [List.append_assoc, hpieces, hpieces', Option.map_map]
    simp [Function.comp_def]
  · rw [List.append_assoc, hbytes, hbytes', Option.map_map]
    simp [Function.comp_def]

/-- A byte that is no control character, quote or backslash stands for itself. -/
theorem spells_byte {b : UInt8} (hquote : b ≠ 0x22) (hcontrol : ¬b < 0x20) (hbackslash : b ≠ 0x5C) :
    Spells [b] [b] := by
  refine ⟨[.byte b], fun rest => ?_, fun more => ?_⟩
  · rw [List.singleton_append, pieces?.eq_def]
    simp only [hquote, hcontrol, hbackslash, if_false]
    cases pieces? rest with
    | none => rfl
    | some p => rfl
  · rfl

theorem spells_bytes {bs : Bytes} (h : ∀ b ∈ bs, b ≠ 0x22 ∧ ¬b < 0x20 ∧ b ≠ 0x5C) :
    Spells bs bs := by
  induction bs with
  | nil => exact spells_nil
  | cons b bs ih =>
    obtain ⟨hquote, hcontrol, hbackslash⟩ := h b List.mem_cons_self
    exact (spells_byte hquote hcontrol hbackslash).append
      (ih fun b' hb' => h b' (List.mem_cons_of_mem _ hb'))

/-- An escape of one letter stands for its byte. -/
theorem spells_short {e b : UInt8} (hletter : e ≠ 0x75) (h : shortEscape? e = some b) :
    Spells [0x5C, e] [b] := by
  refine ⟨[.byte b], fun rest => ?_, fun more => ?_⟩
  · rw [List.cons_append, List.singleton_append, pieces?.eq_def]
    simp only [hletter, h, if_false]
    cases pieces? rest with
    | none => rfl
    | some p => rfl
  · rfl

/-- An escape by number stands for the character with that number, if it is no surrogate. -/
theorem spells_unit {p q r s : UInt8} {n : Nat} (h : unit? [p, q, r, s] = some n)
    (hlow : n < 0xD800) :
    Spells [0x5C, 0x75, p, q, r, s] (String.utf8EncodeChar (Char.ofNat n)) := by
  have hhigh : isHigh n = false := by
    simp [isHigh]
    omega
  have hlow' : isLow n = false := by
    simp [isLow]
    omega
  refine ⟨[.unit n], fun rest => ?_, fun more => ?_⟩
  · simp only [List.cons_append, List.nil_append]
    rw [pieces?.eq_def]
    simp only [h]
    cases pieces? rest with
    | none => rfl
    | some p => rfl
  · rw [List.singleton_append, assemble?.eq_def]
    simp [hhigh, hlow']

/-- A control character without an escape of its own is spelled by number. -/
theorem spells_control {c : Char} (h : c.toNat < 0x20) :
    Spells (Utf8.encodeChars
        ['\\', 'u', '0', '0', Bytes.hexDigit (c.toNat / 16), Bytes.hexDigit (c.toNat % 16)])
      (String.utf8EncodeChar c) := by
  have table : ∀ n < 0x20,
      Utf8.encodeChars ['\\', 'u', '0', '0', Bytes.hexDigit (n / 16), Bytes.hexDigit (n % 16)] =
          [0x5C, 0x75, 0x30, 0x30, UInt8.ofNat (Bytes.hexDigit (n / 16)).toNat,
            UInt8.ofNat (Bytes.hexDigit (n % 16)).toNat] ∧
        unit? [0x30, 0x30, UInt8.ofNat (Bytes.hexDigit (n / 16)).toNat,
          UInt8.ofNat (Bytes.hexDigit (n % 16)).toNat] = some n := by decide
  obtain ⟨hspelled, hunit⟩ := table c.toNat h
  have hspells := spells_unit hunit (by omega)
  rwa [← hspelled, Char.ofNat_toNat] at hspells

/-- The bytes of a character that is not escaped are those that stand for themselves. -/
theorem spells_plain {c : Char} (hquote : c ≠ '"') (hbackslash : c ≠ '\\')
    (hcontrol : ¬c.toNat < 0x20) :
    Spells (String.utf8EncodeChar c) (String.utf8EncodeChar c) := by
  refine spells_bytes fun b hb => ⟨?_, ?_, ?_⟩
  · rintro rfl
    exact hquote (Utf8.eq_of_mem_encodeChar (by decide) hb)
  · intro hlt
    have hlt' : b.toNat < 0x20 := UInt8.lt_iff_toNat_lt.1 hlt
    have hc : c = Char.ofNat b.toNat := Utf8.eq_of_mem_encodeChar (by omega) hb
    have hsmall : ∀ n < 0x20, (Char.ofNat n).toNat < 0x20 := by decide
    exact hcontrol (hc ▸ hsmall b.toNat hlt')
  · rintro rfl
    exact hbackslash (Utf8.eq_of_mem_encodeChar (by decide) hb)

/-- Whatever a character is written as inside a literal stands for that character. -/
theorem spells_escapeChar (c : Char) :
    Spells (Utf8.encodeChars (escapeChar c)) (String.utf8EncodeChar c) := by
  unfold escapeChar
  split
  · next h =>
    subst h
    exact spells_short (e := 0x22) (by decide) rfl
  split
  · next h =>
    subst h
    exact spells_short (e := 0x5C) (by decide) rfl
  split
  · next h =>
    subst h
    exact spells_short (e := 0x62) (by decide) rfl
  split
  · next h =>
    subst h
    exact spells_short (e := 0x66) (by decide) rfl
  split
  · next h =>
    subst h
    exact spells_short (e := 0x6E) (by decide) rfl
  split
  · next h =>
    subst h
    exact spells_short (e := 0x72) (by decide) rfl
  split
  · next h =>
    subst h
    exact spells_short (e := 0x74) (by decide) rfl
  split
  · next hcontrol => exact spells_control hcontrol
  · next hquote hbackslash _ _ _ _ _ hcontrol =>
    rw [Utf8.encodeChars_cons, Utf8.encodeChars, List.flatMap_nil, List.append_nil]
    exact spells_plain hquote hbackslash hcontrol

theorem spells_escape (cs : List Char) :
    Spells (Utf8.encodeChars (escape cs)) (Utf8.encodeChars cs) := by
  induction cs with
  | nil => exact spells_nil
  | cons c cs ih =>
    rw [escape, List.flatMap_cons, Utf8.encodeChars_append, Utf8.encodeChars_cons]
    exact (spells_escapeChar c).append ih

/-- The content of a literal reads back as its text. -/
theorem pieces?_escape (s : String) (rest : Bytes) :
    ∃ pieces, pieces? (Utf8.encodeChars (escape s.toList) ++ 0x22 :: rest) = some (pieces, rest) ∧
      textOf? pieces = some s := by
  obtain ⟨pieces, hpieces, hbytes⟩ := spells_escape s.toList
  refine ⟨pieces, ?_, ?_⟩
  · rw [hpieces, pieces?.eq_def]
    simp
  · have hassemble := hbytes []
    rw [List.append_nil, assemble?, Option.map_some, List.append_nil] at hassemble
    rw [textOf?, hassemble]
    exact Utf8.decode?_encode s

end Reader

open Reader

/-! ### Objects of texts -/

/-- The members of an object of texts. -/
def textMembers (texts : List (String × String)) : List (Option String × Json) :=
  texts.map fun t => (some t.1, .text t.2)

/-- An object of texts. -/
def ofTexts (texts : List (String × String)) : Json :=
  .object (textMembers texts)

theorem renderMembers_singleton (t : String × String) :
    renderMembers (textMembers [t]) = literal t.1.toList ++ ':' :: literal t.2.toList := by
  simp [textMembers, renderMembers, renderKey, renderChars]

theorem renderMembers_cons_cons (t t' : String × String) (texts : List (String × String)) :
    renderMembers (textMembers (t :: t' :: texts)) =
      (literal t.1.toList ++ ':' :: literal t.2.toList) ++
        ',' :: renderMembers (textMembers (t' :: texts)) := by
  simp [textMembers, renderMembers, renderKey, renderChars]

theorem encodeChars_literal (s : String) :
    Utf8.encodeChars (literal s.toList) = 0x22 ::
      (Utf8.encodeChars (escape s.toList) ++ [0x22]) := by
  rw [literal, List.cons_append, Utf8.encodeChars_cons, Utf8.encodeChars_append]
  rfl

theorem value?_literal (fuel : Nat) (s : String) (rest : Bytes) :
    value? (fuel + 1) (Utf8.encodeChars (literal s.toList) ++ rest) = some (.text s, rest) := by
  obtain ⟨pieces, hpieces, htext⟩ := pieces?_escape s rest
  have hquote : Char.ofNat (0x22 : UInt8).toNat = '"' := by decide
  have hblank : isBlank 0x22 = false := by decide
  rw [encodeChars_literal, List.cons_append, List.append_assoc, List.singleton_append,
    value?, skipBlanks, List.dropWhile_cons_of_neg (by simp [hblank])]
  simp only [hquote, hpieces, Option.map_some, htext]

theorem expect?_cons {b : UInt8} (hblank : isBlank b = false) (c : UInt8) (rest : Bytes) :
    expect? c (b :: rest) = if b = c then some rest else none := by
  rw [expect?, skipBlanks, List.dropWhile_cons_of_neg (by simp [hblank])]

theorem key?_literal (key : String) (rest : Bytes) :
    key? (Utf8.encodeChars (literal key.toList) ++ 0x3A :: rest) = some (some key, rest) := by
  obtain ⟨pieces, hpieces, htext⟩ := pieces?_escape key (0x3A :: rest)
  rw [encodeChars_literal, List.cons_append, List.append_assoc, List.singleton_append, key?,
    expect?_cons (by decide), if_pos rfl]
  simp only [Option.bind_eq_bind, Option.bind_some, hpieces,
    expect?_cons (b := 0x3A) (by decide), if_true]
  rw [htext]
  rfl

/-- A member reads back, and what follows decides whether it was the last. -/
theorem members?_cons (t : String × String) (rest : Bytes) (fuel : Nat) :
    Reader.members? (fuel + 2)
        (Utf8.encodeChars (literal t.1.toList ++ ':' :: literal t.2.toList) ++ rest) =
      match expect? 0x7D rest with
      | some after => some (textMembers [t], after)
      | none => (expect? 0x2C rest).bind fun bs =>
        (Reader.members? (fuel + 1) bs).map fun p => (textMembers [t] ++ p.1, p.2) := by
  have hcolon : String.utf8EncodeChar ':' = [0x3A] := by decide
  rw [Utf8.encodeChars_append, Utf8.encodeChars_cons, hcolon, List.append_assoc, List.append_assoc,
    List.singleton_append, Reader.members?, key?_literal]
  simp only [Option.bind_eq_bind, Option.bind_some, value?_literal]
  cases expect? 0x7D rest with
  | some after => rfl
  | none =>
    cases expect? 0x2C rest with
    | none => rfl
    | some bs =>
      simp only [Option.bind_some]
      cases Reader.members? (fuel + 1) bs with
      | none => rfl
      | some p => rfl

/-- One or more members of an object of texts read back, up to the brace that closes them. -/
theorem members?_render (t : String × String) (texts : List (String × String))
    (rest : Bytes) {fuel : Nat} (hfuel : texts.length < fuel) :
    Reader.members? (fuel + 1)
        (Utf8.encodeChars (renderMembers (textMembers (t :: texts))) ++ 0x7D :: rest) =
      some (textMembers (t :: texts), rest) := by
  -- on the members after the first, each of which takes one step
  induction texts generalizing t fuel with
  | nil =>
    obtain ⟨fuel, rfl⟩ := Nat.exists_eq_succ_of_ne_zero (Nat.ne_of_gt hfuel)
    rw [renderMembers_singleton, members?_cons, expect?_cons (by decide), if_pos rfl]
  | cons t' texts ih =>
    obtain ⟨fuel, rfl⟩ := Nat.exists_eq_succ_of_ne_zero (Nat.ne_of_gt (Nat.zero_lt_of_lt hfuel))
    have hcomma : String.utf8EncodeChar ',' = [0x2C] := by decide
    rw [renderMembers_cons_cons, Utf8.encodeChars_append, List.append_assoc, members?_cons,
      Utf8.encodeChars_cons, hcomma, List.append_assoc, List.singleton_append,
      expect?_cons (by decide), expect?_cons (by decide)]
    simp only [if_neg (show ¬(0x2C : UInt8) = 0x7D by decide), if_true, Option.bind_some]
    rw [ih t' (by simpa using hfuel)]
    rfl

theorem length_le_length_renderMembers (texts : List (String × String)) :
    texts.length ≤ (renderMembers (textMembers texts)).length := by
  induction texts with
  | nil => exact Nat.zero_le _
  | cons t texts ih =>
    cases texts with
    | nil => simp [renderMembers_singleton, literal]
    | cons t' texts =>
      rw [renderMembers_cons_cons, List.length_append, List.length_cons (a := ','),
        List.length_cons]
      omega

theorem exists_encodeChars_renderMembers (t : String × String) (texts : List (String × String)) :
    ∃ rest, Utf8.encodeChars (renderMembers (textMembers (t :: texts))) = 0x22 :: rest := by
  cases texts with
  | nil =>
    rw [renderMembers_singleton, Utf8.encodeChars_append, encodeChars_literal]
    exact ⟨_, rfl⟩
  | cons t' texts =>
    rw [renderMembers_cons_cons, Utf8.encodeChars_append, Utf8.encodeChars_append,
      encodeChars_literal]
    exact ⟨_, rfl⟩

/-- An object of texts reads back as it was. -/
theorem read?_render_ofTexts (t : String × String) (texts : List (String × String)) :
    read? (Utf8.encode (ofTexts (t :: texts)).render) = some (ofTexts (t :: texts)) := by
  have hopen : String.utf8EncodeChar '\x7b' = [0x7B] := by decide
  have hclose : Utf8.encodeChars ['\x7d'] = [0x7D] := by decide
  have hbrace : Char.ofNat (0x7B : UInt8).toNat = '\x7b' := by decide
  have hblank : isBlank 0x7B = false := by decide
  have hbytes : Utf8.encode (ofTexts (t :: texts)).render =
      0x7B :: (Utf8.encodeChars (renderMembers (textMembers (t :: texts))) ++ [0x7D]) := by
    rw [Utf8.encode, render, String.toList_ofList, ofTexts, renderChars, List.cons_append,
      Utf8.encodeChars_cons, Utf8.encodeChars_append, hopen, hclose]
    rfl
  -- a member takes one step of the reader and more than one byte
  have hfuel : texts.length <
      2 * (Utf8.encodeChars (renderMembers (textMembers (t :: texts))) ++ [0x7D]).length + 1 := by
    have hmembers := length_le_length_renderMembers (t :: texts)
    have hchars := Utf8.length_le_length_encodeChars (renderMembers (textMembers (t :: texts)))
    rw [List.length_cons] at hmembers
    rw [List.length_append]
    omega
  -- the first member begins with the quote of its key
  have hfirst : expect? 0x7D
      (Utf8.encodeChars (renderMembers (textMembers (t :: texts))) ++ [0x7D]) =
      none := by
    obtain ⟨rest, hrest⟩ := exists_encodeChars_renderMembers t texts
    rw [hrest, List.cons_append, expect?_cons (by decide), if_neg (by decide)]
  rw [hbytes, read?, List.length_cons, Nat.mul_add, value?, skipBlanks,
    List.dropWhile_cons_of_neg (by simp [hblank])]
  simp only [hbrace, hfirst, members?_render t texts [] hfuel]
  rfl

end Json

end Turnstile
