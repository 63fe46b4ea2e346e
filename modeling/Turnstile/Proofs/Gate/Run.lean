import Turnstile.Proofs.Gate.Subject
import Turnstile.Proofs.Net.Address

/-!
# Who has a bucket

The limiter keeps its buckets by texts that clients send: addresses of clients, and api tokens. Over
a run of a gate, in which requests are decided on, admissions are settled and the store is swept in
any order and on any clock, no text gets a bucket that was not looked at before: it is the address
of a request under a policy by address, or an api token that the gate's signer vouched for when it
was sent. No text is both.

## Main definitions

- `Gate.Call`, `Gate.Step`, `Gate.Run` — what a gate can be asked for, and its runs from the empty
  store
- `Gate.Addressed`, `Gate.Vouched` — the two ways in which a text has become a subject

## Main statements

- `Gate.Traced.step` — what one call keeps
- `Gate.no_bucket_without_subject` — the statement about runs
-/

namespace Turnstile.Gate

/-- What a gate and its store can be asked for. -/
inductive Call where
  | judge (policy : Policy) (req : GateRequest)
  | settle (admission : Admission) (elapsed : Span)
  | sweep (staleAfter : Span)

/-- The store after an operation that does nothing when it fails. -/
def kept (store : Store) : Except Failure Store → Store
  | .ok after => after
  | .error _ => store

/-- Answers a call: the decision, if it asks for one, and the store that is left. -/
def Call.perform (g : Gate) (store : Store) (now : Instant) :
    Call → Option (Except Failure Admission) × Store
  | .judge policy req => (some (g.judge policy req store now).1, (g.judge policy req store now).2)
  | .settle admission elapsed => (none, kept store (Gate.settle admission elapsed store now))
  | .sweep staleAfter => (none, kept store (Limiter.cleanup store staleAfter now))

/-- A call of a run, with the stores before and after it and its answer. -/
structure Step where
  now : Instant
  call : Call
  before : Store
  decision : Option (Except Failure Admission)
  after : Store

/-- The step that a call makes. -/
def Call.step (g : Gate) (store : Store) (now : Instant) (call : Call) : Step :=
  ⟨now, call, store, (call.perform g store now).1, (call.perform g store now).2⟩

/-- How a run may go on: with a request that comes from the address of a client, with settling an
admission that was granted, however often, or with a sweep. -/
def Call.Allowed (past : List Step) : Call → Prop
  | .judge _ req =>
    ∃ peer headers trust, req.remoteAddress = Request.clientAddress peer headers trust
  | .settle admission _ => ∃ s ∈ past, s.decision = some (.ok admission)
  | .sweep _ => True

/-- The runs of a gate from the empty store, with the store that they have come to. The clock may
show anything at each step. -/
inductive Run (g : Gate) : List Step → Store → Prop
  | start : Run g [] .empty
  | step {past : List Step} {store : Store} (run : Run g past store) (now : Instant) (call : Call)
      (allowed : call.Allowed past) :
      Run g (past ++ [call.step g store now]) (call.step g store now).after

/-- The text was the address of a request under a policy by address. -/
def Addressed (past : List Step) (key : String) : Prop :=
  ∃ s ∈ past, ∃ policy req, s.call = .judge policy req ∧ policy.byAddress = true ∧
    req.remoteAddress = key

/-- The text was sent as the api token of a request that needed one, and the gate's signer vouched
for it at that time. -/
def Vouched (g : Gate) (past : List Step) (key : String) : Prop :=
  ∃ s ∈ past, ∃ policy req signer claims, s.call = .judge policy req ∧ policy.NeedsToken ∧
    Presents req.apiToken key ∧ g.signer = some signer ∧
    QuotaClaims.parse signer key s.now = .ok (some claims)

/-- What is known at each point of a run. -/
structure Traced (g : Gate) (past : List Step) (store : Store) : Prop where
  bounded : store.health = .sound ∧ ∀ key, Limiter.Bounded g.limiter (store.buckets.find? key)
  known : ∀ key, store.buckets.find? key ≠ none → Addressed past key ∨ g.Vouched past key
  granted : ∀ s ∈ past, ∀ admission key, s.decision = some (.ok admission) →
    admission.subject = some key → Addressed past key ∨ g.Vouched past key
  clients : ∀ key, Addressed past key →
    ∃ peer headers trust, key = Request.clientAddress peer headers trust
  spared : ∀ s ∈ past, ∀ policy req, s.call = .judge policy req →
    ∃ decision, s.decision = some decision ∧ g.Spares policy req s.before s.now decision s.after

variable {g : Gate} {policy : Policy} {req : GateRequest} {store after : Store} {now : Instant}
  {key : String} {past : List Step} {call : Call}

theorem Addressed.append (h : Addressed past key) (s : Step) : Addressed (past ++ [s]) key := by
  obtain ⟨t, ht, h⟩ := h
  exact ⟨t, List.mem_append_left _ ht, h⟩

theorem Vouched.append (h : g.Vouched past key) (s : Step) : g.Vouched (past ++ [s]) key := by
  obtain ⟨t, ht, h⟩ := h
  exact ⟨t, List.mem_append_left _ ht, h⟩

theorem known_append (h : Addressed past key ∨ g.Vouched past key) (s : Step) :
    Addressed (past ++ [s]) key ∨ g.Vouched (past ++ [s]) key :=
  h.imp (·.append s) (·.append s)

/-- A request that shows a text to be its subject is on record from then on. -/
theorem known_of_entitles (h : g.Entitles policy req now key) :
    Addressed (past ++ [(Call.judge policy req).step g store now]) key ∨
      g.Vouched (past ++ [(Call.judge policy req).step g store now]) key := by
  have hmem : (Call.judge policy req).step g store now ∈
      past ++ [(Call.judge policy req).step g store now] := by simp
  cases h with
  | byAddress address own => exact Or.inl ⟨_, hmem, policy, req, rfl, address, own⟩
  | byToken needed sent signed verified =>
    exact Or.inr ⟨_, hmem, policy, req, _, _, rfl, needed, sent, signed, verified⟩

/-! ### What single calls leave in the store -/

/-- What settling and sweeping do is done by the limiter, if anything is. -/
theorem kept_of_perform {P : Store → Prop} {result : Except Failure Store} (unchanged : P store)
    (changed : ∀ after, result = .ok after → P after) : P (kept store result) := by
  cases result with
  | ok after => exact changed after rfl
  | error e => exact unchanged

/-- Settling keeps buckets within their bounds, and writes no bucket but the subject's. -/
theorem bounded_of_settle {admission : Admission} {elapsed : Span}
    (before : store.health = .sound ∧ ∀ key, Limiter.Bounded g.limiter (store.buckets.find? key))
    (h : Gate.settle admission elapsed store now = .ok after) :
    (after.health = .sound ∧ ∀ key, Limiter.Bounded g.limiter (after.buckets.find? key)) ∧
      ∀ key, after.buckets.find? key ≠ none →
        store.buckets.find? key ≠ none ∨ admission.subject = some key := by
  unfold Gate.settle at h
  split at h
  · next subject hsubject =>
    obtain ⟨⟨value, left⟩, hcharge, hend⟩ := exists_of_bind_eq_ok h
    obtain rfl := Except.ok.inj hend
    have hperform : (Limiter.Call.charge subject elapsed).perform g.limiter store now =
        .ok (.left value, left) := by
      rw [Limiter.Call.perform, hcharge]
      rfl
    refine ⟨Limiter.bounded_of_perform before hperform, fun key hfound => ?_⟩
    rw [(Limiter.find?_of_perform before.1 hperform).2 key, Limiter.Call.onBucket] at hfound
    split at hfound
    · next hkey => exact Or.inr (by rw [hsubject, hkey])
    · exact Or.inl hfound
  · obtain rfl := Except.ok.inj h
    exact ⟨before, fun key hfound => Or.inl hfound⟩

theorem bounded_of_cleanup {staleAfter : Span}
    (before : store.health = .sound ∧ ∀ key, Limiter.Bounded g.limiter (store.buckets.find? key))
    (h : Limiter.cleanup store staleAfter now = .ok after) :
    (after.health = .sound ∧ ∀ key, Limiter.Bounded g.limiter (after.buckets.find? key)) ∧
      ∀ key, after.buckets.find? key ≠ none → store.buckets.find? key ≠ none := by
  have hperform : (Limiter.Call.sweep staleAfter).perform g.limiter store now =
      .ok (.swept, after) := by
    rw [Limiter.Call.perform, h]
    rfl
  refine ⟨Limiter.bounded_of_perform before hperform, fun key hfound hnone => hfound ?_⟩
  rw [(Limiter.find?_of_cleanup before.1 h).2 key, hnone, Limiter.surviving]
  split
  · rfl
  · rfl

/-! ### Runs -/

theorem Traced.start (g : Gate) : g.Traced [] .empty where
  bounded := ⟨rfl, fun key b hb => by cases hb⟩
  known := fun key hfound => absurd rfl hfound
  granted := fun s hs => absurd hs List.not_mem_nil
  clients := fun key ⟨s, hs, _⟩ => absurd hs List.not_mem_nil
  spared := fun s hs => absurd hs List.not_mem_nil

/-- A step that is no request keeps what is known, if it keeps the bounds and writes no bucket of a
text that is not on record. -/
theorem Traced.append (h : g.Traced past store) {s : Step}
    (quiet : ∀ policy req, s.call ≠ .judge policy req) (undecided : s.decision = none)
    (bounded : after.health = .sound ∧ ∀ key, Limiter.Bounded g.limiter (after.buckets.find? key))
    (known : ∀ key, after.buckets.find? key ≠ none → Addressed past key ∨ g.Vouched past key) :
    g.Traced (past ++ [s]) after := by
  refine ⟨bounded, fun key hfound => known_append (known key hfound) s, ?_, ?_, ?_⟩
  · refine List.forall_mem_append.2 ⟨?_, List.forall_mem_singleton.2 ?_⟩
    · intro t ht admission key hdecision hsubject
      exact known_append (h.granted t ht admission key hdecision hsubject) s
    · intro admission key hdecision
      rw [undecided] at hdecision
      cases hdecision
  · rintro key ⟨t, ht, policy, req, hcall, haddress⟩
    rcases List.mem_append.1 ht with ht | ht
    · exact h.clients key ⟨t, ht, policy, req, hcall, haddress⟩
    · obtain rfl := List.mem_singleton.1 ht
      exact absurd hcall (quiet policy req)
  · refine List.forall_mem_append.2 ⟨h.spared, List.forall_mem_singleton.2 ?_⟩
    intro policy req hcall
    exact absurd hcall (quiet policy req)

theorem bounded_of_judge (policy : Policy) (req : GateRequest) (now : Instant)
    (before : store.health = .sound ∧ ∀ key, Limiter.Bounded g.limiter (store.buckets.find? key)) :
    ((g.judge policy req store now).2.health = .sound ∧
        ∀ key, Limiter.Bounded g.limiter ((g.judge policy req store now).2.buckets.find? key)) ∧
      ∀ key, (g.judge policy req store now).2.buckets.find? key ≠ none →
        store.buckets.find? key ≠ none ∨ g.Entitles policy req now key := by
  by_cases hnow : now ≤ Instant.last
  · have hleaves : g.Leaves policy req store now (g.judge policy req store now).2 :=
      leaves_of_judge before.1 rfl fun h => absurd (lt_of_judge h) (Int.not_lt.2 hnow)
    exact ⟨hleaves.bounded before, fun key hfound => hleaves.entitles before.1 hfound⟩
  · rw [snd_judge_of_halted before.1 (Int.not_le.1 hnow)]
    exact ⟨before, fun key hfound => Or.inl hfound⟩

theorem Traced.judge (h : g.Traced past store) (now : Instant) (policy : Policy) (req : GateRequest)
    (allowed : (Call.judge policy req).Allowed past) :
    g.Traced (past ++ [(Call.judge policy req).step g store now])
      ((Call.judge policy req).step g store now).after := by
  obtain ⟨hbounded, hfound⟩ := bounded_of_judge policy req now h.bounded
  -- what was known stays so, and the request is on record for what it adds
  refine ⟨hbounded, fun key hkey => ?_, ?_, ?_, ?_⟩
  · rcases hfound key hkey with hold | hnew
    · exact known_append (h.known key hold) _
    · exact known_of_entitles hnew
  · refine List.forall_mem_append.2 ⟨?_, List.forall_mem_singleton.2 ?_⟩
    · intro t ht admission key hdecision hsubject
      exact known_append (h.granted t ht admission key hdecision hsubject) _
    · intro admission key hdecision hsubject
      exact known_of_entitles (entitles_of_judge (Option.some.inj hdecision) hsubject)
  · rintro key ⟨t, ht, policy', req', hcall, haddress, rfl⟩
    rcases List.mem_append.1 ht with ht | ht
    · exact h.clients _ ⟨t, ht, policy', req', hcall, haddress, rfl⟩
    · obtain rfl := List.mem_singleton.1 ht
      obtain ⟨rfl, rfl⟩ := Call.judge.inj hcall
      exact allowed
  · refine List.forall_mem_append.2 ⟨h.spared, List.forall_mem_singleton.2 ?_⟩
    intro policy' req' hcall
    obtain ⟨rfl, rfl⟩ := Call.judge.inj hcall
    exact ⟨_, rfl, spares_of_judge policy req now h.bounded⟩

/-- Whatever a run goes on with keeps what is known. -/
theorem Traced.step (h : g.Traced past store) (now : Instant) (call : Call)
    (allowed : call.Allowed past) :
    g.Traced (past ++ [call.step g store now]) (call.step g store now).after := by
  cases call with
  | judge policy req => exact h.judge now policy req allowed
  | settle admission elapsed =>
    obtain ⟨t, ht, hgranted⟩ := allowed
    obtain ⟨hbounded, hknown⟩ := kept_of_perform (P := fun after =>
        (after.health = .sound ∧ ∀ key, Limiter.Bounded g.limiter (after.buckets.find? key)) ∧
          ∀ key, after.buckets.find? key ≠ none →
            store.buckets.find? key ≠ none ∨ admission.subject = some key)
      ⟨h.bounded, fun key hfound => Or.inl hfound⟩ fun after hsettle =>
        bounded_of_settle h.bounded hsettle
    refine h.append nofun rfl hbounded fun key hfound => ?_
    rcases hknown key hfound with hold | hsubject
    · exact h.known key hold
    · exact h.granted t ht admission key hgranted hsubject
  | sweep staleAfter =>
    obtain ⟨hbounded, hknown⟩ := kept_of_perform (P := fun after =>
        (after.health = .sound ∧ ∀ key, Limiter.Bounded g.limiter (after.buckets.find? key)) ∧
          ∀ key, after.buckets.find? key ≠ none → store.buckets.find? key ≠ none)
      ⟨h.bounded, fun key hfound => hfound⟩ fun after hsweep => bounded_of_cleanup h.bounded hsweep
    exact h.append nofun rfl hbounded fun key hfound => h.known key (hknown key hfound)

theorem Run.traced (run : g.Run past store) : g.Traced past store := by
  induction run with
  | start => exact .start g
  | step run now call allowed ih => exact ih.step now call allowed

/-- A text that some signer vouches for is not the address of a client. -/
theorem ne_clientAddress_of_parse {signer : Signer} {claims : QuotaClaims}
    (h : QuotaClaims.parse signer key now = .ok (some claims)) (peer : Option Address)
    (headers : Headers) (trust : Bool) : key ≠ Request.clientAddress peer headers trust := by
  -- the signer vouches for texts of envelopes only
  obtain ⟨payload?, hverify, hread⟩ := exists_of_bind_eq_ok h
  cases payload? with
  | none => cases Except.ok.inj hread
  | some payload =>
    obtain ⟨-, expiry, -, rfl⟩ := Signer.verify_eq_ok_some_iff.1 hverify
    exact Envelope.encode_ne_clientAddress _ peer headers trust

/-- **No bucket without a subject.** Whatever a run of a gate does, every bucket in its store is
that of an address that a request came from, under a policy by address, or of an api token that the
gate's signer vouched for when it was sent. No text is both: not even the address of one request and
a token that some signer vouches for at some time. A decision that ends for want of a subject has
left the whole store as it was, and any other has left all buckets but its subject's, which has no
less in it afterwards. -/
theorem no_bucket_without_subject (g : Gate) (past : List Step) (store : Store)
    (run : g.Run past store) :
    (∀ key ∈ store.buckets.keys, Addressed past key ∨ g.Vouched past key) ∧
    (∀ key, ¬(Addressed past key ∧ g.Vouched past key)) ∧
    (∀ key, Addressed past key → ∀ signer now claims,
      QuotaClaims.parse signer key now ≠ .ok (some claims)) ∧
    (∀ s ∈ past, ∀ policy req, s.call = .judge policy req →
      ∃ decision, s.decision = some decision ∧
        g.Spares policy req s.before s.now decision s.after) := by
  have htraced := run.traced
  have hnotToken : ∀ key, Addressed past key → ∀ signer now claims,
      QuotaClaims.parse signer key now ≠ .ok (some claims) := by
    intro key haddressed signer now claims hparse
    obtain ⟨peer, headers, trust, hkey⟩ := htraced.clients key haddressed
    exact ne_clientAddress_of_parse hparse peer headers trust hkey
  refine ⟨fun key hkey => htraced.known key ?_, ?_, hnotToken, htraced.spared⟩
  · exact fun hnone => Buckets.find?_eq_none_iff.1 hnone hkey
  · rintro key ⟨haddressed, s, -, -, -, signer, claims, -, -, -, -, hparse⟩
    exact hnotToken key haddressed signer s.now claims hparse

/-- A gate with a signer, that limits as it does unless told otherwise. -/
def usual : Gate :=
  ⟨some (Signer.ofText "secret"), {}, .empty, {}, UserClaims.defaultLifetime⟩

/-- An address is admitted, swept and only then charged, which makes it a bucket again. Sent as an
api token, it gets nothing from that. -/
theorem bucket_of_swept_address :
    ∃ past store, usual.Run past store ∧
      store.buckets.entries = [("10.0.0.1", ⟨-7, 3600000000001⟩)] ∧
      past.map (·.decision) =
        [some (.ok ⟨some "10.0.0.1", none⟩), none, none, some (.error .tokenInvalid)] ∧
      Addressed past "10.0.0.1" ∧ ¬usual.Vouched past "10.0.0.1" := by
  have hadmitted : (usual.judge .limitedByAddress ⟨"GET", "10.0.0.1", none, none⟩ .empty 0).1 =
      .ok ⟨some "10.0.0.1", none⟩ := rfl
  have hclient : "10.0.0.1" = Request.clientAddress (some (.v4 ⟨10, 0, 0, 1⟩)) [] false := by decide
  have hrun : usual.Run _ _ :=
    Run.step (Run.step (Run.step (Run.step .start
      0 (.judge .limitedByAddress ⟨"GET", "10.0.0.1", none, none⟩) ⟨_, _, _, hclient⟩)
      3600000000000 (.sweep (60 * Span.second)) trivial)
      3600000000001 (.settle ⟨some "10.0.0.1", none⟩ 7)
        ⟨_, List.mem_append_left _ (List.mem_append_right _ List.mem_cons_self),
          congrArg some hadmitted⟩)
      3600000000002 (.judge {} ⟨"GET", "10.0.0.1", some "10.0.0.1", none⟩) ⟨_, _, _, hclient⟩
  obtain ⟨-, hboth, -, -⟩ := no_bucket_without_subject usual _ _ hrun
  refine ⟨_, _, hrun, rfl, rfl, (and_iff_left_of_imp (not_and.1 (hboth _))).2 ?_⟩
  exact ⟨_,
    List.mem_append_left _ (List.mem_append_left _ (List.mem_append_left _ List.mem_cons_self)),
    .limitedByAddress, ⟨"GET", "10.0.0.1", none, none⟩, rfl, rfl, rfl⟩

end Turnstile.Gate
