import Turnstile.Proofs.Token.Envelope

/-!
# The grammar of tokens

Which texts are tokens, said without the reader or the writer: three segments of base64 with a
separator between them, the second of which spells eight bytes. A segment is made of digits of the
alphabet and of padding that fills up the last group of four; one or two characters of it at most,
and the bits that they leave unused in the last digit are zero.

## Main definitions

- `Base64.Padded`, `Base64.Spells` — the grammar of a segment, and how many bytes it spells
- `Envelope.Grammatical` — the grammar of a token

## Main statements

- `Base64.spells_iff` — a segment of the grammar is the written form of as many bytes as it spells
- `Envelope.decode?_onto_grammar` — reading and writing tokens are inverse to each other on the
  grammar, and nothing else is read
-/

namespace Turnstile

namespace Base64

/-- The digits in the order of their values. -/
def alphabet : List Char :=
  "ABCDEFGHIJKLMNOPQRSTUVWXYZabcdefghijklmnopqrstuvwxyz0123456789+/".toList

/-- Digits with `pads` characters of padding behind them make up whole groups, and the bits that are
left over are zero. -/
structure Padded (digits : List Char) (pads : Nat) : Prop where
  alphabet : ∀ c ∈ digits, c ∈ alphabet
  few : pads ≤ 2
  whole : 4 ∣ digits.length + pads
  unused : ∀ c ∈ digits.getLast?, Nat.pow 4 pads ∣ Base64.alphabet.idxOf c

/-- A segment spells as many bytes as its digits have bits for, at six bits to a digit. -/
def Spells (cs : List Char) (count : Nat) : Prop :=
  ∃ digits pads, cs = digits ++ List.replicate pads '=' ∧ Padded digits pads ∧
    count = digits.length * 6 / 8

/-! ### The alphabet -/

theorem digit_mem_alphabet {n : Nat} (h : n < 64) :
    digit n ∈ alphabet ∧ alphabet.idxOf (digit n) = n := by
  have table : ∀ n < 64, digit n ∈ alphabet ∧ alphabet.idxOf (digit n) = n := by decide +kernel
  exact table n h

theorem exists_digit_of_mem_alphabet {c : Char} (h : c ∈ alphabet) :
    ∃ n < 64, c = digit n ∧ alphabet.idxOf c = n := by
  have table : alphabet.all (fun c => alphabet.idxOf c < 64 ∧
      c = digit (alphabet.idxOf c)) = true := by
    decide +kernel
  obtain ⟨hlt, hc⟩ := of_decide_eq_true (List.all_eq_true.1 table c h)
  exact ⟨_, hlt, hc, rfl⟩

/-! ### Segments -/

/-- A group of four digits in front changes nothing but the length. -/
theorem padded_cons_group {p q r s : Nat} (hp : p < 64) (hq : q < 64) (hr : r < 64) (hs : s < 64)
    {digits : List Char} {pads : Nat} (h : Padded digits pads) :
    Padded (digit p :: digit q :: digit r :: digit s :: digits) pads where
  alphabet := by
    simp only [List.forall_mem_cons]
    exact ⟨(digit_mem_alphabet hp).1, (digit_mem_alphabet hq).1, (digit_mem_alphabet hr).1,
      (digit_mem_alphabet hs).1, h.alphabet⟩
  few := h.few
  whole := by
    have hwhole := h.whole
    simp only [List.length_cons]
    omega
  unused := by
    intro c hc
    cases digits with
    | nil =>
      -- the last group is full, and then there is no padding
      have hpads : pads = 0 := by
        have hwhole := h.whole
        have hfew := h.few
        rw [List.length_nil] at hwhole
        omega
      rw [hpads]
      exact Nat.one_dvd _
    | cons d rest =>
      refine h.unused c ?_
      simpa using hc

theorem padded_one {v w : Nat} (hv : v < 64) (hw : w < 64) (hunused : 16 ∣ w) :
    Padded [digit v, digit w] 2 where
  alphabet := by
    simp [digit_mem_alphabet hv, digit_mem_alphabet hw]
  few := Nat.le_refl 2
  whole := Nat.dvd_refl 4
  unused := by
    intro c hc
    obtain rfl : digit w = c := by simpa using hc
    rw [(digit_mem_alphabet hw).2]
    exact hunused

theorem padded_two {v w x : Nat} (hv : v < 64) (hw : w < 64) (hx : x < 64) (hunused : 4 ∣ x) :
    Padded [digit v, digit w, digit x] 1 where
  alphabet := by
    simp [digit_mem_alphabet hv, digit_mem_alphabet hw, digit_mem_alphabet hx]
  few := by decide
  whole := Nat.dvd_refl 4
  unused := by
    intro c hc
    obtain rfl : digit x = c := by simpa using hc
    rw [(digit_mem_alphabet hx).2]
    exact hunused

/-- A written form is of the grammar and spells the bytes that were written. -/
theorem spells_encode (bs : Bytes) : Spells (encode bs) bs.length := by
  fun_induction encode bs with
  | case1 => exact ⟨[], 0, rfl, ⟨by simp, by decide, by decide, by simp⟩, rfl⟩
  | case2 a =>
    have ha := a.toNat_lt
    refine ⟨[_, _], 2, rfl, padded_one (by omega) (by omega) (by omega), by simp⟩
  | case3 a b =>
    have ha := a.toNat_lt
    have hb := b.toNat_lt
    refine ⟨[_, _, _], 1, rfl, padded_two (by omega) (by omega) (by omega) (by omega), by simp⟩
  | case4 a b c rest ih =>
    have ha := a.toNat_lt
    have hb := b.toNat_lt
    have hc := c.toNat_lt
    obtain ⟨digits, pads, hcs, hpadded, hcount⟩ := ih
    refine ⟨_ :: _ :: _ :: _ :: digits, pads, by rw [hcs]; rfl,
      padded_cons_group (by omega) (by omega) (by omega) (by omega) hpadded, ?_⟩
    simp only [List.length_cons]
    omega

/-- What is left of a padded text behind a group of four digits. -/
theorem Padded.tail {a b c d : Char} {digits : List Char} {pads : Nat}
    (h : Padded (a :: b :: c :: d :: digits) pads) : Padded digits pads where
  alphabet := fun x hx => h.alphabet x (by simp [hx])
  few := h.few
  whole := by
    have hwhole := h.whole
    simp only [List.length_cons] at hwhole
    omega
  unused := by
    intro x hx
    cases digits with
    | nil => cases hx
    | cons e rest =>
      refine h.unused x ?_
      simpa using hx

/-- Digits and padding of the grammar are the written form of the bytes that they have bits for. -/
theorem exists_encode_of_padded (digits : List Char) {pads : Nat} (h : Padded digits pads) :
    ∃ bs : Bytes, bs.length = digits.length * 6 / 8 ∧
      encode bs = digits ++ List.replicate pads '=' := by
  have hfew := h.few
  have hwhole := h.whole
  -- group by group, and the last one by the number of its digits
  match digits with
  | [] =>
    obtain rfl : pads = 0 := by
      rw [List.length_nil] at hwhole
      omega
    exact ⟨[], rfl, rfl⟩
  | [_] =>
    rw [List.length_singleton] at hwhole
    omega
  | [a, b] =>
    obtain rfl : pads = 2 := by
      simp only [List.length_cons, List.length_nil] at hwhole
      omega
    obtain ⟨v, hv, rfl, -⟩ := exists_digit_of_mem_alphabet (h.alphabet a (by simp))
    obtain ⟨w, hw, rfl, hplace⟩ := exists_digit_of_mem_alphabet (h.alphabet b (by simp))
    have hunused : 16 ∣ w := hplace ▸ h.unused (digit w) (by simp)
    refine ⟨[UInt8.ofNat (v * 4 + w / 16)], by simp, encode_of_decodeOne? hv hw ?_⟩
    exact if_pos (Nat.mod_eq_zero_of_dvd hunused)
  | [a, b, c] =>
    obtain rfl : pads = 1 := by
      simp only [List.length_cons, List.length_nil] at hwhole
      omega
    obtain ⟨v, hv, rfl, -⟩ := exists_digit_of_mem_alphabet (h.alphabet a (by simp))
    obtain ⟨w, hw, rfl, -⟩ := exists_digit_of_mem_alphabet (h.alphabet b (by simp))
    obtain ⟨x, hx, rfl, hplace⟩ := exists_digit_of_mem_alphabet (h.alphabet c (by simp))
    have hunused : 4 ∣ x := hplace ▸ h.unused (digit x) (by simp)
    refine ⟨[UInt8.ofNat (v * 4 + w / 16), UInt8.ofNat (w % 16 * 16 + x / 4)], by simp,
      encode_of_decodeTwo? hv hw hx ?_⟩
    exact if_pos (Nat.mod_eq_zero_of_dvd hunused)
  | a :: b :: c :: d :: rest =>
    obtain ⟨bs, hlength, hencode⟩ := exists_encode_of_padded rest h.tail
    obtain ⟨v, hv, rfl, -⟩ := exists_digit_of_mem_alphabet (h.alphabet a (by simp))
    obtain ⟨w, hw, rfl, -⟩ := exists_digit_of_mem_alphabet (h.alphabet b (by simp))
    obtain ⟨x, hx, rfl, -⟩ := exists_digit_of_mem_alphabet (h.alphabet c (by simp))
    obtain ⟨y, hy, rfl, -⟩ := exists_digit_of_mem_alphabet (h.alphabet d (by simp))
    refine ⟨_, ?_, (encode_group hv hw hx hy bs).trans (by rw [hencode]; rfl)⟩
    simp only [List.length_cons, hlength]
    omega

theorem spells_iff {cs : List Char} {count : Nat} :
    Spells cs count ↔ ∃ bs : Bytes, bs.length = count ∧ cs = encode bs := by
  constructor
  · rintro ⟨digits, pads, rfl, hpadded, rfl⟩
    obtain ⟨bs, hlength, hencode⟩ := exists_encode_of_padded digits hpadded
    exact ⟨bs, hlength, hencode.symm⟩
  · rintro ⟨bs, rfl, rfl⟩
    exact spells_encode bs

end Base64

namespace Envelope

/-- The grammar of a token: payload, expiry and signature, in this order and with separators between
them. The expiry spells eight bytes; payload and signature may spell any number. -/
def Grammatical (token : String) : Prop :=
  ∃ payload expiry signature : List Char,
    token.toList = payload ++ ':' :: expiry ++ ':' :: signature ∧
      (∃ count, Base64.Spells payload count) ∧ Base64.Spells expiry 8 ∧
      ∃ count, Base64.Spells signature count

theorem grammatical_encode (e : Envelope) : Grammatical e.encode := by
  refine ⟨_, _, _, String.toList_ofList, ⟨_, Base64.spells_encode _⟩, ?_,
    ⟨_, Base64.spells_encode _⟩⟩
  rw [← e.expiry.length_bytes]
  exact Base64.spells_encode _

theorem exists_encode_of_grammatical {token : String} (h : Grammatical token) :
    ∃ e : Envelope, token = e.encode := by
  obtain ⟨payload, expiry, signature, htoken, ⟨_, hpayload⟩, hexpiry, ⟨_, hsignature⟩⟩ := h
  obtain ⟨payloadBytes, -, rfl⟩ := Base64.spells_iff.1 hpayload
  obtain ⟨expiryBytes, hlength, rfl⟩ := Base64.spells_iff.1 hexpiry
  obtain ⟨signatureBytes, -, rfl⟩ := Base64.spells_iff.1 hsignature
  refine ⟨⟨payloadBytes, ⟨expiryBytes, hlength⟩, signatureBytes⟩, ?_⟩
  rw [encode, String.ext_iff, String.toList_ofList, htoken]
  rfl

/-- **Tokens are read and written one to one.** An envelope is read from a text exactly if the text
is what is written for it. So what was written reads back, and what was read is written in the same
way again. The texts from which nothing is read are those that are not of the grammar. -/
theorem decode?_onto_grammar (token : String) :
    (∀ e : Envelope, decode? token = some e ↔ token = e.encode) ∧
      (decode? token = none ↔ ¬Grammatical token) := by
  refine ⟨fun e => decode?_eq_some_iff, ?_⟩
  constructor
  · intro hnone hgrammar
    obtain ⟨e, rfl⟩ := exists_encode_of_grammatical hgrammar
    rw [decode?_eq_some_iff.2 rfl] at hnone
    cases hnone
  · intro hgrammar
    refine Option.eq_none_iff_forall_ne_some.2 fun e hsome => hgrammar ?_
    rw [decode?_eq_some_iff.1 hsome]
    exact grammatical_encode e

end Envelope

end Turnstile
