import Turnstile.Proofs.Text.Base64
import Turnstile.Proofs.Text.Split
import Turnstile.Token.Envelope

/-!
# Tokens are spelled in one way

The token text of an envelope reads back as that envelope, and no other text does: there is no
second spelling of a token, whatever is done to its padding, its separators or its segments.

## Main statements

- `Envelope.decode?_eq_some_iff` — reading a token accepts exactly what writing produces
- `Envelope.payload_expiry_of_append_eq` — payload and expiry can be told apart in the signed bytes
-/

namespace Turnstile

namespace Expiry

@[ext] theorem ext {e f : Expiry} (h : e.bytes = f.bytes) : e = f := by
  cases e
  cases f
  cases h
  rfl

@[simp] theorem ofBytes?_bytes (e : Expiry) : ofBytes? e.bytes = some e := by
  rw [ofBytes?, dif_pos e.length_bytes]

theorem bytes_of_ofBytes? {bs : Bytes} {e : Expiry} (h : ofBytes? bs = some e) : e.bytes = bs := by
  unfold ofBytes? at h
  split at h
  · obtain rfl := Option.some.inj h
    rfl
  · cases h

end Expiry

namespace Envelope

/-- The separator does not occur in a segment. -/
theorem separator_not_mem (bs : Bytes) : separator ∉ Base64.encode bs :=
  Base64.not_mem_encode (by decide) (by decide) bs

theorem encodeChars_eq_join (e : Envelope) :
    e.encodeChars = Text.join separator
      [Base64.encode e.payload, Base64.encode e.expiry.bytes, Base64.encode e.signature] := by
  simp [encodeChars, Text.join]

theorem encode_ne_empty (e : Envelope) : e.encode ≠ "" := by
  intro hempty
  have hchars := congrArg String.toList hempty
  simp [encode, encodeChars] at hchars

theorem split_encodeChars (e : Envelope) :
    Text.split separator e.encodeChars =
      [Base64.encode e.payload, Base64.encode e.expiry.bytes, Base64.encode e.signature] := by
  rw [encodeChars, List.append_assoc, List.cons_append, Text.split_append (separator_not_mem _),
    Text.split_append (separator_not_mem _), Text.split_of_not_mem (separator_not_mem _)]

theorem decodeChars?_encodeChars (e : Envelope) : decodeChars? e.encodeChars = some e := by
  rw [decodeChars?, split_encodeChars]
  simp [Base64.decode?_encode]

theorem eq_encodeChars_of_decodeChars? {cs : List Char} {e : Envelope}
    (h : decodeChars? cs = some e) : cs = e.encodeChars := by
  unfold decodeChars? at h
  -- three segments, each of which has only one spelling
  split at h
  · next payload expiry signature hsplit =>
    obtain ⟨payloadBytes, hpayload, h⟩ := Option.bind_eq_some_iff.1 h
    obtain ⟨expiryBytes, hexpiry, h⟩ := Option.bind_eq_some_iff.1 h
    obtain ⟨expiryOf, hlength, h⟩ := Option.bind_eq_some_iff.1 h
    obtain ⟨signatureBytes, hsignature, h⟩ := Option.bind_eq_some_iff.1 h
    obtain rfl := Option.some.inj h
    rw [encodeChars_eq_join, ← Text.join_split separator cs, hsplit]
    rw [Expiry.bytes_of_ofBytes? hlength, ← Base64.eq_encode_of_decode? hpayload,
      ← Base64.eq_encode_of_decode? hexpiry, ← Base64.eq_encode_of_decode? hsignature]
  · cases h

theorem decodeChars?_eq_some_iff {cs : List Char} {e : Envelope} :
    decodeChars? cs = some e ↔ cs = e.encodeChars := by
  constructor
  · exact eq_encodeChars_of_decodeChars?
  · rintro rfl
    exact decodeChars?_encodeChars e

/-- An envelope is read from a token exactly if the token is the envelope's text. -/
theorem decode?_eq_some_iff {token : String} {e : Envelope} :
    decode? token = some e ↔ token = e.encode := by
  rw [decode?, decodeChars?_eq_some_iff, encode, String.ext_iff, String.toList_ofList]

/-- Payload and expiry can be told apart in the signed bytes, as the expiry is the last eight. -/
theorem payload_expiry_of_append_eq {payload payload' : Bytes} {expiry expiry' : Expiry}
    (h : payload ++ expiry.bytes = payload' ++ expiry'.bytes) :
    payload = payload' ∧ expiry = expiry' := by
  obtain ⟨hpayload, hbytes⟩ :=
    List.append_inj' h (by rw [expiry.length_bytes, expiry'.length_bytes])
  exact ⟨hpayload, Expiry.ext hbytes⟩

/-- A token text is made of visible ASCII characters. -/
theorem toNat_lt_of_mem_encode {e : Envelope} {c : Char} (h : c ∈ e.encode.toList) :
    c.toNat < 0x7F := by
  rw [encode, String.toList_ofList, encodeChars] at h
  simp only [List.mem_append, List.mem_cons] at h
  rcases h with (h | rfl | h) | rfl | h
  · exact Base64.toNat_lt_of_mem_encode h
  · decide
  · exact Base64.toNat_lt_of_mem_encode h
  · decide
  · exact Base64.toNat_lt_of_mem_encode h

end Envelope

end Turnstile
