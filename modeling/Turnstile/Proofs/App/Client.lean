import Turnstile.Proofs.App.Routing
import Turnstile.Proofs.Gate.Subject
import Turnstile.Proofs.Net.Forwarded

/-!
# The address of a client

Under a policy by address a request is charged to the text of one address: that of its peer, or the
first one from outside that the forwarded addresses name, if these are trusted. Forwarded addresses
count only as plain text; a value with any other byte in it is as good as none. One address has one
text, so two requests share a bucket exactly if they come to the same address.

## Main definitions

- `Headers.Forwards` — header fields that list forwarded addresses in plain text
- `Request.resolved?` — the address that a request counts as coming from
- `Request.SharesBucket` — requests that are limited together

## Main statements

- `Headers.text?_forwarded_iff` — what is read of the list
- `Request.sharesBucket_iff` — requests are limited together exactly if they come to the same
  address
- `Request.clientAddress_names_one_host` — the address that a request is limited by
-/

namespace Turnstile

/-! ### The header -/

/-- The first field that lists forwarded addresses holds a list in plain text. -/
def Headers.Forwards (headers : Headers) (list : String) : Prop :=
  ∃ f, headers.find? (fun f => f.name = Forwarded.header) = some f ∧ f.value = Utf8.encode list ∧
    ∀ c ∈ list.toList, c.toNat < 0x7F

theorem Headers.text?_forwarded_iff {headers : Headers} {list : String} :
    headers.text? Forwarded.header = some list ↔ headers.Forwards list := by
  have hname : headerName? Forwarded.header = some Forwarded.header := by decide
  have htext : headers.text? Forwarded.header =
      (headers.find? fun f => f.name = Forwarded.header).bind HeaderField.text? := by
    simp [text?, hname, bind, Option.bind]
  rw [htext, Option.bind_eq_some_iff]
  refine exists_congr fun f => and_congr_right fun _ => ?_
  constructor
  · intro h
    unfold HeaderField.text? at h
    split at h
    · next hall =>
      obtain ⟨list', hvalue, hascii⟩ :=
        Utf8.exists_encode_eq fun b hb => of_decide_eq_true (List.all_eq_true.1 hall b hb)
      rw [hvalue, Utf8.decodeLenient_encode] at h
      obtain rfl := Option.some.inj h
      exact ⟨hvalue, hascii⟩
    · cases h
  · rintro ⟨hvalue, hascii⟩
    have hread := HeaderField.text?_encode f.name hascii
    rwa [← hvalue] at hread

namespace Request

/-! ### The address -/

/-- The address that a request counts as coming from, if its peer is known. -/
def resolved? (r : Request) (s : GateSettings) : Option Address :=
  r.peer.map fun peer =>
    if s.trustForwardedFor then Forwarded.resolve peer (r.headers.text? Forwarded.header) else peer

/-- Two requests are limited together: policies by address give them the same subject. -/
def SharesBucket (s : GateSettings) (r r' : Request) : Prop :=
  ∀ policy policy' : Policy, policy.byAddress = true → policy'.byAddress = true →
    Gate.subject? policy (r.forGate s) = Gate.subject? policy' (r'.forGate s)

variable {peer a : Address} {headers : Headers} {list : String}

theorem clientAddress_of_forwards (h : headers.Forwards list) :
    clientAddress (some peer) headers true = ((Forwarded.firstPublic? list).getD peer).render := by
  rw [clientAddress, Headers.text?_forwarded_iff.2 h]
  rfl

theorem clientAddress_of_not_forwards (h : ∀ list, ¬headers.Forwards list) :
    clientAddress (some peer) headers true = peer.render := by
  have hnone : headers.text? Forwarded.header = none :=
    Option.eq_none_iff_forall_ne_some.2 fun list hlist =>
      h list (Headers.text?_forwarded_iff.1 hlist)
  rw [clientAddress, hnone]
  rfl

/-- The name of those who are not known is the text of no address. -/
theorem unknownPeer_ne_render (a : Address) : unknownPeer ≠ a.render := by
  have hspells : ¬Address.Spells 'u' := Address.not_spells_of_ne (by decide) (by decide) (by decide)
  intro h
  have hmem : 'u' ∈ unknownPeer.toList := by decide
  rw [h] at hmem
  exact hspells (Address.spells_of_mem_render hmem)

theorem remoteAddress_forGate (r : Request) (s : GateSettings) :
    (r.forGate s).remoteAddress = ((r.resolved? s).map Address.render).getD unknownPeer := by
  unfold forGate clientAddress resolved?
  cases r.peer with
  | none => rfl
  | some peer => cases s.trustForwardedFor <;> rfl

/-- The text by which a request is limited tells what it has come to. -/
theorem render_or_unknownPeer_injective :
    Function.Injective fun a? : Option Address => (a?.map Address.render).getD unknownPeer := by
  intro a? a?' h
  cases a? with
  | none =>
    cases a?' with
    | none => rfl
    | some a' => exact absurd h (unknownPeer_ne_render a')
  | some a =>
    cases a?' with
    | none => exact absurd h.symm (unknownPeer_ne_render a)
    | some a' => exact congrArg some (Address.render_injective h)

theorem sharesBucket_iff (s : GateSettings) (r r' : Request) :
    r.SharesBucket s r' ↔ r.resolved? s = r'.resolved? s := by
  have hsubject : ∀ (policy : Policy) (req : GateRequest), policy.byAddress = true →
      Gate.subject? policy req = some req.remoteAddress := fun policy req address => if_pos address
  constructor
  · intro h
    have hkey := h .limitedByAddress .limitedByAddress rfl rfl
    rw [hsubject _ _ rfl, hsubject _ _ rfl, Option.some_inj, remoteAddress_forGate,
      remoteAddress_forGate] at hkey
    exact render_or_unknownPeer_injective hkey
  · intro h policy policy' address address'
    rw [hsubject policy _ address, hsubject policy' _ address', remoteAddress_forGate,
      remoteAddress_forGate, h]

/-- **The address of a client names one host.** Without trust in forwarded addresses it is the text
of the peer. With trust it is the text of the first address from outside, if the list is plain text
and its entries up to that one are no addresses or internal ones, whatever is behind. It is the text
of the peer if there is no such entry, and if there is no list or one that is not plain text.
Different addresses have different texts, and so requests are limited together exactly if they come
to the same address. -/
theorem clientAddress_names_one_host (peer : Address) (headers : Headers) (s : GateSettings) :
    clientAddress (some peer) headers false = peer.render ∧
    (∀ list a, headers.Forwards list → a.isInternal = false → Forwarded.Names a list.toList →
      clientAddress (some peer) headers true = a.render) ∧
    (∀ list, headers.Forwards list →
      (∀ entry ∈ Text.split ',' list.toList, Forwarded.Skipped entry) →
      clientAddress (some peer) headers true = peer.render) ∧
    ((∀ list, ¬headers.Forwards list) → clientAddress (some peer) headers true = peer.render) ∧
    Function.Injective Address.render ∧
    ∀ r r' : Request, r.SharesBucket s r' ↔ r.resolved? s = r'.resolved? s := by
  refine ⟨rfl, fun list a sent outside names => ?_, fun list sent hskipped => ?_,
    clientAddress_of_not_forwards, Address.render_injective, sharesBucket_iff s⟩
  · rw [clientAddress_of_forwards sent, Forwarded.firstPublic?_of_names names outside,
      Option.getD_some]
  · rw [clientAddress_of_forwards sent, Forwarded.firstPublic?_eq_none_iff.2 hskipped,
      Option.getD_none]

/-- An entry that is no address, an internal one of each version, an address in brackets with blanks
around, and more behind it. -/
def crowd : String :=
  "unknown, 10.0.0.1,\t[::1] , [2001:db8::8:800:0:417a]\t,8.8.8.8,::"

def crowded : Headers :=
  [⟨"accept", Utf8.encode "text/plain"⟩, ⟨"x-forwarded-for", Utf8.encode crowd⟩]

theorem clientAddress_crowded :
    clientAddress (some (.v4 ⟨10, 0, 0, 2⟩)) crowded true = "2001:db8::8:800:0:417a" := by
  have hnames : Forwarded.Names (.v6 ⟨[0x2001, 0xDB8, 0, 0, 8, 0x800, 0, 0x417A], rfl⟩)
      crowd.toList := by
    refine ⟨["unknown".toList, " 10.0.0.1".toList, "\t[::1] ".toList],
      " [2001:db8::8:800:0:417a]\t".toList, ?_, ?_, Or.inr ⟨"8.8.8.8,::".toList, by decide⟩⟩
    · decide
    · exact ⟨[' '], ['\t'], List.forall_mem_singleton.2 rfl, List.forall_mem_singleton.2 rfl,
        Or.inr (by decide)⟩
  have hascii : crowd.toList.all (fun c => decide (c.toNat < 0x7F)) = true := by decide
  have hsent : crowded.Forwards crowd :=
    ⟨_, rfl, rfl, fun c hc => of_decide_eq_true (List.all_eq_true.1 hascii c hc)⟩
  obtain ⟨-, hclient, -⟩ := clientAddress_names_one_host (.v4 ⟨10, 0, 0, 2⟩) crowded {}
  rw [hclient _ _ hsent (by decide) hnames]
  decide

/-- A list that names an address, and after it holds a byte that HTTP allows but that is not plain
text. -/
def tainted : Headers :=
  [⟨"x-forwarded-for", Utf8.encode "8.8.8.8," ++ [0xFF]⟩]

theorem clientAddress_tainted :
    HeaderField.read? "X-Forwarded-For" (Utf8.encode "8.8.8.8," ++ [0xFF]) = tainted.head? ∧
      (Address.v4 ⟨8, 8, 8, 8⟩).isInternal = false ∧ (Address.v4 ⟨8, 8, 8, 8⟩).render = "8.8.8.8" ∧
      clientAddress (some (.v4 ⟨10, 0, 0, 2⟩)) tainted true ≠ "8.8.8.8" := by
  decide

end Request

end Turnstile
