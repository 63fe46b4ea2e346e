import Turnstile.App.Message
import Turnstile.Proofs.Token.Envelope

/-!
# What addresses are spelled with

The text of an address has digits, points and colons in it, and nothing else. A token has the
padding of its expiry, which is none of them. So the address of a client is never the text of a
token, although the same buckets are kept for both.

## Main definitions

- `Address.Spells` — the characters that addresses are spelled with

## Main statements

- `Address.spells_of_mem_render` — the text of an address has no others
- `Envelope.encode_ne_clientAddress` — no token is the address of a client
-/

namespace Turnstile

/-! ### Addresses -/

namespace Address

/-- The characters that addresses are spelled with. -/
def Spells (c : Char) : Prop :=
  c = '.' ∨ c = ':' ∨ ∃ d < 16, c = Nat.digitChar d

theorem not_spells_of_ne {c : Char} (hpoint : c ≠ '.') (hcolon : c ≠ ':')
    (hdigits : ∀ d < 16, c ≠ Nat.digitChar d) : ¬Spells c := by
  rintro (h | h | ⟨d, hd, h⟩)
  · exact hpoint h
  · exact hcolon h
  · exact hdigits d hd h

theorem not_spells_pad : ¬Spells '=' :=
  not_spells_of_ne (by decide) (by decide) (by decide)

end Address

open Address (Spells)

theorem exists_digit_of_mem_toDigits {base n : Nat} (hbase : 1 < base) {c : Char}
    (h : c ∈ Nat.toDigits base n) : ∃ d < base, c = Nat.digitChar d := by
  induction n using Nat.strongRecOn with
  | ind n ih =>
    rw [Nat.toDigits_eq_if hbase] at h
    split at h
    · next hlt => exact ⟨n, hlt, List.mem_singleton.1 h⟩
    · next hle =>
      rcases List.mem_append.1 h with h | h
      · exact ih (n / base) (Nat.div_lt_self (by omega) hbase) h
      · exact ⟨n % base, Nat.mod_lt _ (by omega), List.mem_singleton.1 h⟩

theorem spells_of_mem_toDigits {base n : Nat} (hbase : 1 < base) (hle : base ≤ 16) {c : Char}
    (h : c ∈ Nat.toDigits base n) : Spells c := by
  obtain ⟨d, hd, hc⟩ := exists_digit_of_mem_toDigits hbase h
  exact Or.inr (Or.inr ⟨d, by omega, hc⟩)

theorem AddressV4.spells_of_mem_chars {x : AddressV4} {c : Char} (h : c ∈ x.chars) : Spells c := by
  simp only [AddressV4.chars, List.mem_append, List.mem_cons] at h
  rcases h with ((h | rfl | h) | rfl | h) | rfl | h
  · exact spells_of_mem_toDigits (by decide) (by decide) h
  · exact Or.inl rfl
  · exact spells_of_mem_toDigits (by decide) (by decide) h
  · exact Or.inl rfl
  · exact spells_of_mem_toDigits (by decide) (by decide) h
  · exact Or.inl rfl
  · exact spells_of_mem_toDigits (by decide) (by decide) h

namespace AddressV6

theorem spells_of_mem_joinGroups {groups : List UInt16} {c : Char} (h : c ∈ joinGroups groups) :
    Spells c := by
  fun_induction joinGroups groups with
  | case1 => cases h
  | case2 g => exact spells_of_mem_toDigits (by decide) (by decide) h
  | case3 g rest hrest ih =>
    rcases List.mem_append.1 h with h | h
    · exact spells_of_mem_toDigits (by decide) (by decide) h
    · rcases List.mem_cons.1 h with rfl | h
      · exact Or.inr (Or.inl rfl)
      · exact ih h

theorem spells_of_mem_chars {x : AddressV6} {c : Char} (h : c ∈ x.chars) : Spells c := by
  unfold chars at h
  split at h
  · -- the prefix of a mapped address, which is the same for all of them
    have hmapped : "::ffff:".toList = [':', ':', 'f', 'f', 'f', 'f', ':'] := rfl
    have hcolon : Spells ':' := Or.inr (Or.inl rfl)
    have hlast : Spells 'f' := Or.inr (Or.inr ⟨15, by decide, rfl⟩)
    rcases List.mem_append.1 h with h | h
    · simp only [hmapped, List.mem_cons, List.not_mem_nil, or_false] at h
      rcases h with rfl | rfl | rfl | rfl | rfl | rfl | rfl <;> assumption
    · exact AddressV4.spells_of_mem_chars h
  · dsimp only at h
    split at h
    · simp only [List.mem_append, List.mem_cons] at h
      rcases h with h | rfl | rfl | h
      · exact spells_of_mem_joinGroups h
      · exact Or.inr (Or.inl rfl)
      · exact Or.inr (Or.inl rfl)
      · exact spells_of_mem_joinGroups h
    · exact spells_of_mem_joinGroups h

end AddressV6

theorem Address.spells_of_mem_render {x : Address} {c : Char} (h : c ∈ x.render.toList) :
    Spells c := by
  rw [render, String.toList_ofList] at h
  cases x with
  | v4 x => exact AddressV4.spells_of_mem_chars h
  | v6 x => exact AddressV6.spells_of_mem_chars h

/-- Where a request comes from is the text of an address, or that of none. -/
theorem Request.pad_not_mem_clientAddress (peer : Option Address) (headers : Headers)
    (trust : Bool) :
    '=' ∉ (clientAddress peer headers trust).toList := by
  have haddress : ∀ x : Address, '=' ∉ x.render.toList := fun x h =>
    Address.not_spells_pad (Address.spells_of_mem_render h)
  cases peer with
  | none =>
    rw [clientAddress]
    decide
  | some peer =>
    rw [clientAddress]
    split
    · exact haddress _
    · exact haddress _

/-! ### Tokens -/

/-- Eight bytes are two groups of three and one of two, which is padded. -/
theorem Expiry.pad_mem_encode (e : Expiry) : '=' ∈ Base64.encode e.bytes := by
  obtain ⟨bytes, hlength⟩ := e
  match bytes, hlength with
  | [a, b, c, d, e, f, g, h], _ => simp [Base64.encode]

theorem Envelope.pad_mem_encode (e : Envelope) : '=' ∈ e.encode.toList := by
  have hexpiry := e.expiry.pad_mem_encode
  rw [encode, String.toList_ofList, encodeChars]
  simp [hexpiry]

/-- No token is the address of a client. -/
theorem Envelope.encode_ne_clientAddress (e : Envelope) (peer : Option Address) (headers : Headers)
    (trust : Bool) : e.encode ≠ Request.clientAddress peer headers trust := by
  intro h
  have hpad := e.pad_mem_encode
  rw [h] at hpad
  exact Request.pad_not_mem_clientAddress peer headers trust hpad

end Turnstile
