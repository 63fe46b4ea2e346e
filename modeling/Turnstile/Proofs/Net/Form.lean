import Turnstile.Net.Form
import Turnstile.Proofs.Text.Split
import Turnstile.Proofs.Text.Utf8

/-!
# A written query reads back as its pairs

Whatever the names and values are, the query that is written for a list of pairs reads as that list.
Each byte of a name is written in characters that are read back as that byte, and neither `&` nor
`=` is among them, so that the pieces of the query come apart where they were put together.

## Main statements

- `Form.decode_encode` — one name or value
- `Form.parse_render` — a whole query
-/

namespace Turnstile.Form

/-! ### Bytes -/

/-- What holds of the numbers below 256 holds of all bytes. -/
theorem forall_byte {P : UInt8 → Prop} (h : ∀ n : Nat, n < 256 → P (UInt8.ofNat n))
    (b : UInt8) : P b := by
  have hb := h b.toNat b.toNat_lt
  rwa [UInt8.ofNat_toNat] at hb

theorem percentDecode_cons_of_ne_percent {b : UInt8} (hb : b ≠ 0x25) (rest : Bytes) :
    percentDecode (b :: rest) = b :: percentDecode rest := by
  match rest with
  | [] => rfl
  | [_] => rfl
  | high :: low :: rest =>
    rw [percentDecode]
    split
    · exact if_neg hb
    · rfl

/-- A percent sign with the digits of a byte stands for that byte. -/
theorem percentDecode_percent {high low : UInt8} {h l : Nat}
    (hhigh : Bytes.hexValue? (Char.ofNat high.toNat) = some h)
    (hlow : Bytes.hexValue? (Char.ofNat low.toNat) = some l) (rest : Bytes) :
    percentDecode (0x25 :: high :: low :: rest) = UInt8.ofNat (h * 16 + l) ::
      percentDecode rest := by
  rw [percentDecode, hhigh, hlow]
  exact if_pos rfl

/-- The byte as which a hexadecimal digit is sent is no plus sign, and it is read as that digit. -/
theorem upperHexDigit_facts {n : Nat} (hn : n < 16) :
    String.utf8EncodeChar (upperHexDigit n) = [UInt8.ofNat (upperHexDigit n).toNat] ∧
      plusToSpace (UInt8.ofNat (upperHexDigit n).toNat) = UInt8.ofNat (upperHexDigit n).toNat ∧
      Bytes.hexValue? (Char.ofNat (UInt8.ofNat (upperHexDigit n).toNat).toNat) = some n := by
  revert n
  decide

theorem ne_of_isPlain {b c : UInt8} (hb : isPlain b = true) (hc : isPlain c = false) : b ≠ c := by
  rintro rfl
  rw [hb] at hc
  cases hc

theorem utf8EncodeChar_of_isPlain {b : UInt8} (hb : isPlain b = true) :
    String.utf8EncodeChar (Char.ofNat b.toNat) = [b] := by
  have hall : ∀ b, isPlain b = true → String.utf8EncodeChar (Char.ofNat b.toNat) = [b] :=
    forall_byte (by decide +kernel)
  exact hall b hb

/-- What is written for a byte is read as that byte, whatever follows. -/
theorem percentDecode_encodeByte (b : UInt8) (rest : Bytes) :
    percentDecode ((Utf8.encodeChars (encodeByte b)).map plusToSpace ++ rest) =
      b :: percentDecode rest := by
  unfold encodeByte
  split
  · next hplain =>
    have hplus : plusToSpace b = b := if_neg (ne_of_isPlain hplain (by decide))
    simp only [Utf8.encodeChars, List.flatMap_cons, List.flatMap_nil, List.append_nil,
      utf8EncodeChar_of_isPlain hplain, List.map_cons, List.map_nil, hplus, List.cons_append,
      List.nil_append]
    exact percentDecode_cons_of_ne_percent (ne_of_isPlain hplain (by decide)) rest
  split
  · next hspace =>
    rw [hspace]
    exact percentDecode_cons_of_ne_percent (by decide) rest
  · have hb : b.toNat < 256 := b.toNat_lt
    obtain ⟨hhigh, hhighPlus, hhighValue⟩ :=
      upperHexDigit_facts (show b.toNat / 16 < 16 by omega)
    obtain ⟨hlow, hlowPlus, hlowValue⟩ := upperHexDigit_facts (show b.toNat % 16 < 16 by omega)
    have hpercent : String.utf8EncodeChar '%' = [0x25] := by decide
    have hpercentPlus : plusToSpace 0x25 = 0x25 := by decide
    have hdigits : b.toNat / 16 * 16 + b.toNat % 16 = b.toNat := by omega
    simp only [Utf8.encodeChars, List.flatMap_cons, List.flatMap_nil, List.append_nil, hpercent,
      hhigh, hlow, List.map_cons, List.map_nil, List.cons_append, List.nil_append, hpercentPlus,
      hhighPlus, hlowPlus]
    rw [percentDecode_percent hhighValue hlowValue, hdigits, UInt8.ofNat_toNat]

theorem percentDecode_flatMap_encodeByte (bs : Bytes) :
    percentDecode ((Utf8.encodeChars (bs.flatMap encodeByte)).map plusToSpace) = bs := by
  induction bs with
  | nil => rfl
  | cons b bs ih =>
    have happend : Utf8.encodeChars (encodeByte b ++ bs.flatMap encodeByte) =
        Utf8.encodeChars (encodeByte b) ++ Utf8.encodeChars (bs.flatMap encodeByte) :=
      List.flatMap_append
    rw [List.flatMap_cons, happend, List.map_append, percentDecode_encodeByte, ih]

/-! ### Names, values and pairs -/

/-- A name or value reads back as it was written. -/
@[simp] theorem decode_encode (s : String) : decode (encode s) = s := by
  rw [decode, encode, percentDecode_flatMap_encodeByte, Utf8.decodeLenient_encode]

/-- The two characters that hold a query together are written for no byte. -/
theorem not_mem_encodeByte (b : UInt8) : '&' ∉ encodeByte b ∧ '=' ∉ encodeByte b := by
  revert b
  exact forall_byte (by decide +kernel)

theorem ampersand_not_mem_encode (s : String) : '&' ∉ encode s := by
  intro hmem
  obtain ⟨b, -, hb⟩ := List.mem_flatMap.1 hmem
  exact (not_mem_encodeByte b).1 hb

theorem equals_not_mem_encode (s : String) : '=' ∉ encode s := by
  intro hmem
  obtain ⟨b, -, hb⟩ := List.mem_flatMap.1 hmem
  exact (not_mem_encodeByte b).2 hb

@[simp] theorem parsePair_renderPair (pair : String × String) :
    parsePair (renderPair pair) = pair := by
  have hname : ∀ c ∈ encode pair.1, decide (c ≠ '=') = true := by
    intro c hc
    rw [decide_eq_true_eq]
    rintro rfl
    exact equals_not_mem_encode _ hc
  unfold parsePair renderPair
  rw [List.takeWhile_append_of_pos hname, List.dropWhile_append_of_pos hname]
  simp

theorem renderPair_ne_nil (pair : String × String) : renderPair pair ≠ [] := by
  simp [renderPair]

theorem ampersand_not_mem_renderPair (pair : String × String) : '&' ∉ renderPair pair := by
  simp [renderPair, ampersand_not_mem_encode]

/-! ### Queries -/

/-- The query that is written for a list of pairs reads as that list. -/
@[simp] theorem parse_render (pairs : List (String × String)) : parse (render pairs) = pairs := by
  by_cases hpairs : pairs = []
  · subst hpairs
    rfl
  · have hsplit : Text.split '&' (render pairs) = pairs.map renderPair := by
      refine Text.split_join (by simpa using hpairs) ?_
      intro segment hsegment
      obtain ⟨pair, -, rfl⟩ := List.mem_map.1 hsegment
      exact ampersand_not_mem_renderPair pair
    have hfilter : (pairs.map renderPair).filter (· ≠ []) = pairs.map renderPair := by
      rw [List.filter_eq_self]
      intro segment hsegment
      obtain ⟨pair, -, rfl⟩ := List.mem_map.1 hsegment
      simpa using renderPair_ne_nil pair
    rw [parse, hsplit, hfilter, List.map_map]
    simp [Function.comp_def]

/-- Only for no pairs at all is nothing written: even an empty name with an empty value has its
`=`. -/
@[simp] theorem render_eq_nil_iff {pairs : List (String × String)} :
    render pairs = [] ↔ pairs = [] := by
  constructor
  · intro hempty
    rw [← parse_render pairs, hempty]
    rfl
  · rintro rfl
    rfl

end Turnstile.Form
