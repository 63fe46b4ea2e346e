import Turnstile.Text.Utf8

/-!
# The UTF-8 form of a text reads back as the text

The bytes of one character are read back by one step of the reader, whatever follows them. So both
ways of reading, the strict and the lenient, give a text back from its bytes.

## Main statements

- `Utf8.front_encodeChar` — the front of a text's bytes is its first character
- `Utf8.decode?_encode`, `Utf8.decodeLenient_encode` — the two round trips
- `Utf8.exists_encode_eq` — bytes of ASCII are those of a text
-/

namespace Turnstile.Utf8

/-! ### Bytes given as numbers -/

theorem ofNat_eq_iff {m n : Nat} (hm : m < 256) (hn : n < 256) :
    UInt8.ofNat m = UInt8.ofNat n ↔ m = n := by
  rw [← UInt8.toNat_inj, Bytes.toNat_byte hm, Bytes.toNat_byte hn]

theorem isTail_ofNat {n : Nat} (hlow : 0x80 ≤ n) (hhigh : n ≤ 0xBF) :
    isTail (UInt8.ofNat n) = true := by
  simp only [isTail, UInt8.le_iff_toNat_le, Bytes.toNat_byte (show n < 256 by omega),
    Bool.and_eq_true, decide_eq_true_eq]
  exact ⟨hlow, hhigh⟩

/-- A second byte is allowed after a first byte if the two do not spell a character in too many
bytes, a surrogate, or a number past the last character. -/
theorem isSecond_ofNat {a b : Nat} (ha : a < 256) (hlow : 0x80 ≤ b) (hhigh : b ≤ 0xBF)
    (hE0 : a = 0xE0 → 0xA0 ≤ b) (hED : a = 0xED → b ≤ 0x9F) (hF0 : a = 0xF0 → 0x90 ≤ b)
    (hF4 : a = 0xF4 → b ≤ 0x8F) : isSecond (UInt8.ofNat a) (UInt8.ofNat b) = true := by
  have hbyte : (UInt8.ofNat b).toNat = b := Bytes.toNat_byte (by omega)
  unfold isSecond
  split
  · next h =>
    have hmin := hE0 ((ofNat_eq_iff ha (by omega)).1 h)
    simp [UInt8.le_iff_toNat_le, hbyte, hmin, hhigh]
  split
  · next h =>
    have hmax := hED ((ofNat_eq_iff ha (by omega)).1 h)
    simp [UInt8.le_iff_toNat_le, hbyte, hmax, hlow]
  split
  · next h =>
    have hmin := hF0 ((ofNat_eq_iff ha (by omega)).1 h)
    simp [UInt8.le_iff_toNat_le, hbyte, hmin, hhigh]
  split
  · next h =>
    have hmax := hF4 ((ofNat_eq_iff ha (by omega)).1 h)
    simp [UInt8.le_iff_toNat_le, hbyte, hmax, hlow]
  · exact isTail_ofNat hlow hhigh

/-! ### One character -/

variable {a b c d : Nat} (rest : Bytes)

/-- A sequence of one byte. -/
theorem front_one (ha : a < 0x80) : front (UInt8.ofNat a) rest = .char (Char.ofNat a) rest := by
  simp only [front, UInt8.lt_iff_toNat_lt, Bytes.toNat_byte (show a < 256 by omega)]
  exact if_pos ha

theorem front_two (ha : 0xC2 ≤ a) (ha' : a ≤ 0xDF) (hb : 0x80 ≤ b) (hb' : b ≤ 0xBF) :
    front (UInt8.ofNat a) (UInt8.ofNat b :: rest) =
      .char (Char.ofNat (a % 32 * 64 + b % 64)) rest := by
  have hascii : ¬a < 0x80 := by omega
  simp [front, UInt8.lt_iff_toNat_lt, UInt8.le_iff_toNat_le, spell, isTail_ofNat hb hb',
    Bytes.toNat_byte (show a < 256 by omega), Bytes.toNat_byte (show b < 256 by omega),
    hascii, ha, ha']

theorem front_three (ha : 0xE0 ≤ a) (ha' : a ≤ 0xEF) (hb : 0x80 ≤ b) (hb' : b ≤ 0xBF)
    (hc : 0x80 ≤ c) (hc' : c ≤ 0xBF) (hE0 : a = 0xE0 → 0xA0 ≤ b) (hED : a = 0xED → b ≤ 0x9F) :
    front (UInt8.ofNat a) (UInt8.ofNat b :: UInt8.ofNat c :: rest) =
      .char (Char.ofNat ((a % 16 * 64 + b % 64) * 64 + c % 64)) rest := by
  have hsecond : isSecond (UInt8.ofNat a) (UInt8.ofNat b) = true :=
    isSecond_ofNat (by omega) hb hb' hE0 hED (by omega) (by omega)
  have hascii : ¬a < 0x80 := by omega
  have htwo : ¬a ≤ 0xDF := by omega
  simp [front, UInt8.lt_iff_toNat_lt, UInt8.le_iff_toNat_le, spell, hsecond, isTail_ofNat hc hc',
    Bytes.toNat_byte (show a < 256 by omega), Bytes.toNat_byte (show b < 256 by omega),
    Bytes.toNat_byte (show c < 256 by omega), hascii, htwo, ha, ha']

theorem front_four (ha : 0xF0 ≤ a) (ha' : a ≤ 0xF4) (hb : 0x80 ≤ b) (hb' : b ≤ 0xBF)
    (hc : 0x80 ≤ c) (hc' : c ≤ 0xBF) (hd : 0x80 ≤ d) (hd' : d ≤ 0xBF) (hF0 : a = 0xF0 → 0x90 ≤ b)
    (hF4 : a = 0xF4 → b ≤ 0x8F) :
    front (UInt8.ofNat a) (UInt8.ofNat b :: UInt8.ofNat c :: UInt8.ofNat d :: rest) =
      .char (Char.ofNat (((a % 8 * 64 + b % 64) * 64 + c % 64) * 64 + d % 64)) rest := by
  have hsecond : isSecond (UInt8.ofNat a) (UInt8.ofNat b) = true :=
    isSecond_ofNat (by omega) hb hb' (by omega) (by omega) hF0 hF4
  have hascii : ¬a < 0x80 := by omega
  have htwo : ¬a ≤ 0xDF := by omega
  have hthree : ¬a ≤ 0xEF := by omega
  simp [front, UInt8.lt_iff_toNat_lt, UInt8.le_iff_toNat_le, spell, hsecond, isTail_ofNat hc hc',
    isTail_ofNat hd hd', Bytes.toNat_byte (show a < 256 by omega),
    Bytes.toNat_byte (show b < 256 by omega), Bytes.toNat_byte (show c < 256 by omega),
    Bytes.toNat_byte (show d < 256 by omega), hascii, htwo, hthree, ha, ha']

/-- The front of a text's bytes is its first character. -/
theorem front_encodeChar (ch : Char) :
    ∃ a tails, String.utf8EncodeChar ch = a :: tails ∧ front a (tails ++ rest) = .char ch rest := by
  have hchar : Char.ofNat ch.val.toNat = ch := Char.ofNat_toNat ch
  have hvalid : ch.val.toNat < 0xD800 ∨ 0xDFFF < ch.val.toNat ∧ ch.val.toNat < 0x110000 := ch.valid
  -- the reader puts together again what the division by powers of 64 has taken apart
  unfold String.utf8EncodeChar
  generalize ch.val.toNat = v at hchar hvalid
  dsimp only
  split
  · refine ⟨_, _, rfl, ?_⟩
    rw [List.nil_append, front_one rest (by omega), hchar]
  split
  · refine ⟨_, _, rfl, ?_⟩
    have hv : (v / 64 % 0x20 + 0xc0) % 32 * 64 + (v % 0x40 + 0x80) % 64 = v := by omega
    rw [List.cons_append, List.nil_append,
      front_two rest (by omega) (by omega) (by omega) (by omega), hv, hchar]
  split
  · refine ⟨_, _, rfl, ?_⟩
    have hv : ((v / 4096 % 0x10 + 0xe0) % 16 * 64 + (v / 64 % 0x40 + 0x80) % 64) * 64
        + (v % 0x40 + 0x80) % 64 = v := by omega
    rw [List.cons_append, List.cons_append, List.nil_append,
      front_three rest (by omega) (by omega) (by omega) (by omega) (by omega) (by omega) (by omega)
        (by omega), hv, hchar]
  · refine ⟨_, _, rfl, ?_⟩
    have hv : (((v / 262144 % 0x08 + 0xf0) % 8 * 64 + (v / 4096 % 0x40 + 0x80) % 64) * 64
        + (v / 64 % 0x40 + 0x80) % 64) * 64 + (v % 0x40 + 0x80) % 64 = v := by omega
    rw [List.cons_append, List.cons_append, List.cons_append, List.nil_append,
      front_four rest (by omega) (by omega) (by omega) (by omega) (by omega) (by omega) (by omega)
        (by omega) (by omega) (by omega), hv, hchar]

/-- A byte below 0x80 stands for the character with its number, and for no other. -/
theorem eq_of_mem_encodeChar {byte : UInt8} {ch : Char} (hascii : byte.toNat < 0x80)
    (h : byte ∈ String.utf8EncodeChar ch) : ch = Char.ofNat byte.toNat := by
  have hchar : Char.ofNat ch.val.toNat = ch := Char.ofNat_toNat ch
  unfold String.utf8EncodeChar at h
  generalize ch.val.toNat = v at hchar h
  have hhigh : ∀ n, 0x80 ≤ n → n < 256 → byte ≠ UInt8.ofNat n := by
    rintro n hn hn' rfl
    rw [Bytes.toNat_byte hn'] at hascii
    omega
  dsimp only at h
  split at h
  · obtain rfl := List.mem_singleton.1 h
    rw [Bytes.toNat_byte (by omega), hchar]
  -- every byte of a longer sequence is 0x80 or more
  exfalso
  split at h
  · simp only [List.mem_cons, List.not_mem_nil, or_false] at h
    rcases h with h | h
    all_goals exact hhigh _ (by omega) (by omega) h
  split at h
  · simp only [List.mem_cons, List.not_mem_nil, or_false] at h
    rcases h with h | h | h
    all_goals exact hhigh _ (by omega) (by omega) h
  · simp only [List.mem_cons, List.not_mem_nil, or_false] at h
    rcases h with h | h | h | h
    all_goals exact hhigh _ (by omega) (by omega) h

/-- A character below 0x80 is one byte with its number. -/
theorem encodeChar_of_lt {ch : Char} (hascii : ch.toNat < 0x80) :
    String.utf8EncodeChar ch = [UInt8.ofNat ch.toNat] :=
  if_pos (Nat.le_of_lt_succ hascii)

/-! ### Whole texts -/

theorem decodeChars?_encodeChar_append (ch : Char) :
    decodeChars? (String.utf8EncodeChar ch ++ rest) = (decodeChars? rest).map (ch :: ·) := by
  obtain ⟨a, tails, hbytes, hfront⟩ := front_encodeChar rest ch
  rw [hbytes, List.cons_append, decodeChars?]
  split
  · next h =>
    rw [hfront] at h
    cases h
    rfl
  · next h =>
    rw [hfront] at h
    cases h

theorem decodeCharsLenient_encodeChar_append (ch : Char) :
    decodeCharsLenient (String.utf8EncodeChar ch ++ rest) = ch :: decodeCharsLenient rest := by
  obtain ⟨a, tails, hbytes, hfront⟩ := front_encodeChar rest ch
  rw [hbytes, List.cons_append, decodeCharsLenient]
  split
  · next h =>
    rw [hfront] at h
    cases h
    rfl
  · next h =>
    rw [hfront] at h
    cases h

theorem mem_encode {byte : UInt8} {s : String} :
    byte ∈ encode s ↔ ∃ ch ∈ s.toList, byte ∈ String.utf8EncodeChar ch := by
  rw [encode, encodeChars, List.mem_flatMap]

theorem decodeChars?_encodeChars (cs : List Char) : decodeChars? (encodeChars cs) = some cs := by
  induction cs with
  | nil => rw [encodeChars, List.flatMap_nil, decodeChars?]
  | cons ch cs ih =>
    rw [encodeChars, List.flatMap_cons, decodeChars?_encodeChar_append]
    exact congrArg (Option.map (ch :: ·)) ih

theorem decodeCharsLenient_encodeChars (cs : List Char) :
    decodeCharsLenient (encodeChars cs) = cs := by
  induction cs with
  | nil => rw [encodeChars, List.flatMap_nil, decodeCharsLenient]
  | cons ch cs ih =>
    rw [encodeChars, List.flatMap_cons, decodeCharsLenient_encodeChar_append]
    exact congrArg (ch :: ·) ih

/-- The strict reader gives a text back from its bytes. -/
@[simp] theorem decode?_encode (s : String) : decode? (encode s) = some s := by
  rw [decode?, encode, decodeChars?_encodeChars, Option.map_some, String.ofList_toList]

@[simp] theorem decodeLenient_encode (s : String) : decodeLenient (encode s) = s := by
  rw [decodeLenient, encode, decodeCharsLenient_encodeChars, String.ofList_toList]

/-- Bytes below 0x7F are those of a text. -/
theorem exists_encode_eq {value : Bytes} (h : ∀ b ∈ value, b < 0x7F) :
    ∃ list, value = encode list ∧ ∀ c ∈ list.toList, c.toNat < 0x7F := by
  induction value with
  | nil => exact ⟨"", rfl, by simp⟩
  | cons b rest ih =>
    obtain ⟨list, hlist, hascii⟩ := ih fun b' hb' => h b' (List.mem_cons_of_mem _ hb')
    have hb : b.toNat < 0x7F := UInt8.lt_iff_toNat_lt.1 (h b List.mem_cons_self)
    have table : ∀ n < 0x7F, (Char.ofNat n).toNat = n := by decide
    have hchar : (Char.ofNat b.toNat).toNat = b.toNat := table b.toNat hb
    refine ⟨String.ofList (Char.ofNat b.toNat :: list.toList), ?_, ?_⟩
    · rw [encode, String.toList_ofList, encodeChars, List.flatMap_cons,
        encodeChar_of_lt (by omega), hchar, UInt8.ofNat_toNat, hlist]
      rfl
    · rw [String.toList_ofList, List.forall_mem_cons]
      exact ⟨by omega, hascii⟩

end Turnstile.Utf8
