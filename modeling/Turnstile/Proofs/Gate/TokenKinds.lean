import Turnstile.Proofs.Gate.Decision
import Turnstile.Proofs.Json.RoundTrip

/-!
# The two kinds of tokens do not mix

Quota tokens and user tokens are signed with the same secret, and nothing in a token says of which
kind it is. They are told apart by the members of the object that was signed. A name is one text in
it, so whatever a user is called, and if the name reads like the members of a quota token, a user
token has no member of that kind.

## Main statements

- `Json.lookup_of_open?_ofTexts` — an object of texts has no fields but those that it was made of
- `UserClaims.not_held_as_quota`, `QuotaClaims.not_held_as_user` — neither kind is read as the other
- `Gate.kinds_never_mix` — what becomes of a token that is shown as one of the other kind
-/

namespace Turnstile

variable {signer : Signer} {token : String} {payload other : Bytes} {ttl : Span}
  {made now : Instant}
  {source : Entropy} {t : String × String} {texts : List (String × String)}

/-! ### Fields of objects -/

theorem Json.members?_ofTexts (texts : List (String × String)) :
    (ofTexts texts).members? = some (texts.map fun t => (t.1, .text t.2)) := by
  rw [ofTexts, textMembers, members?, List.mapM_map]
  induction texts with
  | nil => rfl
  | cons t rest ih =>
    simp [List.mapM_cons, ih]

/-- An object of texts has no fields but those that it was made of. -/
theorem Json.lookup_of_open?_ofTexts {names : List String} {fields : List (String × Json)}
    {name : String} (absent : name ∉ texts.map (·.1))
    (h : Record.open? names (ofTexts texts) = some fields) :
    fields.lookup name = none := by
  have hfields : Source.fields? (ofTexts texts) =
      some (.named (texts.map fun t => (t.1, Json.text t.2))) :=
    congrArg (Option.map Fields.named) (members?_ofTexts texts)
  rw [Record.open?, hfields] at h
  change Record.select? names _ = some fields at h
  unfold Record.select? at h
  dsimp only at h
  split at h
  · obtain rfl := Option.some.inj h
    rw [List.lookup_eq_none_iff]
    intro e he
    obtain ⟨t, ht, rfl⟩ := List.mem_map.1 (List.mem_filter.1 he).1
    apply bne_iff_ne.2
    rintro rfl
    exact absent (List.mem_map_of_mem ht)
  · cases h

/-- What needs a field cannot be read from an object of texts that does not have it. -/
theorem Json.open?_bind_of_absent {α : Type} {names : List String} {name : String}
    (absent : name ∉ texts.map (·.1)) {read : List (String × Json) → Option α}
    (needed : ∀ fields, fields.lookup name = none → read fields = none) :
    (Record.open? names (ofTexts texts)).bind read = none := by
  cases h : Record.open? names (ofTexts texts) with
  | none => rfl
  | some fields => exact needed fields (lookup_of_open?_ofTexts absent h)

theorem QuotaClaims.ofPayload?_ofTexts (absent : "uuid" ∉ (t :: texts).map (·.1)) :
    ofPayload? (Utf8.encode (Json.ofTexts (t :: texts)).render) = none := by
  rw [ofPayload?, Json.read?_render_ofTexts]
  apply Json.open?_bind_of_absent absent
  intro fields hlookup
  simp [Record.required?, hlookup]

theorem UserClaims.ofPayload?_ofTexts (absent : "user" ∉ (t :: texts).map (·.1)) :
    ofPayload? (Utf8.encode (Json.ofTexts (t :: texts)).render) = none := by
  rw [ofPayload?, Json.read?_render_ofTexts]
  apply Json.open?_bind_of_absent absent
  intro fields hlookup
  simp [Record.required?, hlookup]

/-! ### Issued tokens -/

/-- In a token that it signed, a signer vouches for nothing but what it signed. -/
theorem Signer.eq_of_vouches_sign (signed : signer.sign payload ttl made = .ok token)
    (vouches : signer.Vouches token now other) : other = payload := by
  obtain ⟨expiry, -, hsigned⟩ := exists_of_bind_eq_ok signed
  obtain ⟨expiry', -, htoken⟩ := vouches
  have henvelope : signer.envelope other expiry' =
      signer.envelope payload (Expiry.ofInstant expiry) := by
    apply Option.some.inj
    rw [← Envelope.decode?_eq_some_iff.2 htoken, Envelope.decode?_eq_some_iff]
    exact eq_encode_of_signUntil hsigned
  exact congrArg Envelope.payload henvelope

theorem Signer.ne_empty_of_sign (signed : signer.sign payload ttl made = .ok token) :
    token ≠ "" := by
  obtain ⟨expiry, -, hsigned⟩ := exists_of_bind_eq_ok signed
  rw [eq_encode_of_signUntil hsigned]
  exact Envelope.encode_ne_empty _

theorem UserClaims.toJson_eq (claims : UserClaims) :
    claims.toJson = Json.ofTexts [("user", claims.user), ("random", claims.random)] :=
  rfl

theorem QuotaClaims.toJson_eq (claims : QuotaClaims) :
    claims.toJson = Json.ofTexts [("uuid", claims.uuid.render), ("ts", claims.issued.render)] :=
  rfl

/-- What a user is called makes no quota token of a user token. -/
theorem UserClaims.not_held_as_quota {user : String}
    (issued : issue signer user ttl made source = .ok token) (now : Instant)
    (claims : QuotaClaims) : ¬QuotaClaims.Held signer token now claims := by
  obtain ⟨nonce, -, hsign⟩ := exists_of_bind_eq_ok issued
  rintro ⟨payload, hvouches, hread⟩
  rw [Signer.eq_of_vouches_sign hsign hvouches, toJson_eq,
    QuotaClaims.ofPayload?_ofTexts (by simp)] at hread
  cases hread

/-- A quota token is a signed object of an identifier and a time. -/
theorem QuotaClaims.exists_sign_of_issue (issued : issue signer made source = .ok token) :
    ∃ (claims : QuotaClaims) (written : Instant),
      signer.sign (Utf8.encode claims.toJson.render) 0 written = .ok token := by
  obtain ⟨uuid, -, h⟩ := exists_of_bind_eq_ok issued
  obtain ⟨written, -, hsign⟩ := exists_of_bind_eq_ok h
  exact ⟨⟨uuid, Stamp.ofInstant written⟩, written, hsign⟩

theorem QuotaClaims.not_held_as_user (issued : issue signer made source = .ok token)
    (now : Instant) (claims : UserClaims) : ¬UserClaims.Held signer token now claims := by
  obtain ⟨held, written, hsign⟩ := exists_sign_of_issue issued
  rintro ⟨payload, hvouches, hread⟩
  rw [Signer.eq_of_vouches_sign hsign hvouches, toJson_eq,
    UserClaims.ofPayload?_ofTexts (by simp)] at hread
  cases hread

namespace Gate

variable {g : Gate} {policy : Policy} {req : GateRequest}

/-- Where a token is needed, one that holds no quota claims is turned away before the store is
asked. -/
theorem judge_of_not_held (hnow : now ≤ Instant.last) (needed : policy.NeedsToken)
    (signed : g.signer = some signer) (sent : Presents req.apiToken token)
    (invalid : ∀ claims, ¬QuotaClaims.Held signer token now claims) (store : Store) :
    g.judge policy req store now = (.error .tokenInvalid, store) := by
  rw [judge, checkQuota_of_token needed signed sent,
    Limiter.checkToken_of_refused (Limiter.refusal_of_invalid hnow invalid)]
  rfl

/-- A token that holds no user claims names nobody, whatever it is shown for. -/
theorem resolveUser_ne_of_not_held (signed : g.signer = some signer)
    (sent : req.userToken = some token)
    (invalid : ∀ claims, ¬UserClaims.Held signer token now claims) (user : String) :
    g.resolveUser policy req now ≠ .ok (some user) := by
  intro h
  obtain ⟨hne, shown, ⟨hshown, -⟩, huser⟩ := userOf_of_resolveUser h
  obtain rfl : shown = token := Option.some.inj (hshown.symm.trans sent)
  rw [userOf, signed] at huser
  obtain ⟨claims?, hparse, huser⟩ := exists_of_bind_eq_ok huser
  cases claims? with
  | none => exact hne (Except.ok.inj huser).symm
  | some claims => exact invalid claims (Signer.exists_vouches_of_verify_bind hparse)

theorem not_names_of_not_held (invalid : ∀ claims, ¬UserClaims.Held signer token now claims)
    (user : String) : ¬UserClaims.Names signer token now user := by
  rintro ⟨-, claims, hheld, -⟩
  exact invalid claims hheld

/-- **The two kinds of tokens do not mix.** Whatever a user is called and however long the token
lives, a user token is never read as a quota token. A limiter finds it invalid, and a gate that asks
for an api token turns it away; either leaves the store as it is. And a quota token is never read as
a user token. It names nobody, and does not make up for a user where one is needed. -/
theorem kinds_never_mix (signer : Signer) :
    (∀ user ttl made source token, UserClaims.issue signer user ttl made source = .ok token →
      (∀ now claims, QuotaClaims.parse signer token now ≠ .ok (some claims)) ∧
      ∀ now ≤ Instant.last,
        QuotaClaims.parse signer token now = .ok none ∧
        (∀ settings store,
          Limiter.checkToken settings signer store token now = .ok (.tokenInvalid, store)) ∧
        ∀ (g : Gate) (policy : Policy) (req : GateRequest) (store : Store), g.signer = some signer →
          policy.NeedsToken → req.apiToken = some token →
          g.judge policy req store now = (.error .tokenInvalid, store)) ∧
    (∀ made source token, QuotaClaims.issue signer made source = .ok token →
      (∀ now claims, UserClaims.parse signer token now ≠ .ok (some claims)) ∧
      (∀ now ≤ Instant.last,
        UserClaims.parse signer token now = .ok none ∧
        UserClaims.userOf signer token now = .ok "") ∧
      ∀ (g : Gate) (policy : Policy) (req : GateRequest) (now : Instant), g.signer = some signer →
        req.userToken = some token →
        (∀ user, g.resolveUser policy req now ≠ .ok (some user)) ∧
        (policy.NeedsUser req.method →
          (now ≤ Instant.last → g.resolveUser policy req now = .error .userTokenInvalid) ∧
          ∀ store admission, (g.judge policy req store now).1 ≠ .ok admission)) := by
  constructor
  · intro user ttl made source token issued
    have hinvalid : ∀ now claims, ¬QuotaClaims.Held signer token now claims :=
      UserClaims.not_held_as_quota issued
    refine ⟨fun now claims h => ?_, fun now hnow => ⟨?_, fun settings store => ?_, ?_⟩⟩
    · exact hinvalid now claims (Signer.exists_vouches_of_verify_bind h)
    · exact (QuotaClaims.parse_eq_ok_none_iff hnow).2 (hinvalid now)
    · exact Limiter.checkToken_of_refused (Limiter.refusal_of_invalid hnow (hinvalid now))
    · intro g policy req store signed needed sent
      obtain ⟨nonce, -, hsign⟩ := exists_of_bind_eq_ok issued
      have hpresents : Presents req.apiToken token := ⟨sent, Signer.ne_empty_of_sign hsign⟩
      exact judge_of_not_held hnow needed signed hpresents (hinvalid now) store
  · intro made source token issued
    have hinvalid : ∀ now claims, ¬UserClaims.Held signer token now claims :=
      QuotaClaims.not_held_as_user issued
    have hparse : ∀ now ≤ Instant.last, UserClaims.parse signer token now = .ok none :=
      fun now hnow => (UserClaims.parse_eq_ok_none_iff hnow).2 (hinvalid now)
    refine ⟨fun now claims h => ?_, fun now hnow => ⟨hparse now hnow, ?_⟩, ?_⟩
    · exact hinvalid now claims (Signer.exists_vouches_of_verify_bind h)
    · rw [UserClaims.userOf, hparse now hnow]
      rfl
    · intro g policy req now signed sent
      have hnobody : ∀ user, g.resolveUser policy req now ≠ .ok (some user) :=
        resolveUser_ne_of_not_held signed sent (hinvalid now)
      refine ⟨hnobody, fun needed => ⟨fun hnow => ?_, fun store admission h => ?_⟩⟩
      · obtain ⟨claims, written, hsign⟩ := QuotaClaims.exists_sign_of_issue issued
        have hpresents : Presents req.userToken token := ⟨sent, Signer.ne_empty_of_sign hsign⟩
        exact resolveUser_of_rule hnow
          (.tokenInvalid needed signed hpresents (not_names_of_not_held (hinvalid now)))
      · obtain ⟨user, huser, -⟩ := showsUser_of_judge needed h
        exact hnobody user (huser ▸ resolveUser_of_judge h)

/-- A name that goes on, after a quote, like the members of a quota token. -/
def sly : String :=
  "\",\"uuid\":\"00010203-0405-4607-8809-0a0b0c0d0e0f\",\"ts\":\"1970-01-01T00:00:00Z"

/-- A gate that asks for an api token, and for a user with every method. -/
def strict : Gate :=
  { signer := some (Signer.ofText "secret"), limiter := {}, policies := .empty }

theorem sly_turned_away :
    ∃ userToken quotaToken,
      UserClaims.issue (Signer.ofText "secret") sly 0 0 ⟨[7]⟩ = .ok userToken ∧
      QuotaClaims.issue (Signer.ofText "secret") 0 ⟨[7]⟩ = .ok quotaToken ∧
      strict.judge {} ⟨"GET", "10.0.0.1", some userToken, none⟩ .empty 5 =
        (.error .tokenInvalid, .empty) ∧
      UserClaims.userOf (Signer.ofText "secret") quotaToken 5 = .ok "" ∧
      strict.resolveUser (Policy.requireUserFor {} [.always])
        ⟨"GET", "10.0.0.1", none, some quotaToken⟩ 5 = .error .userTokenInvalid := by
  obtain ⟨huser, hquota⟩ := kinds_never_mix (Signer.ofText "secret")
  obtain ⟨userToken, hissue⟩ : ∃ token,
      UserClaims.issue (Signer.ofText "secret") sly 0 0 ⟨[7]⟩ = .ok token := ⟨_, rfl⟩
  obtain ⟨quotaToken, hissue'⟩ : ∃ token,
      QuotaClaims.issue (Signer.ofText "secret") 0 ⟨[7]⟩ = .ok token := ⟨_, rfl⟩
  obtain ⟨-, hused⟩ := huser sly 0 0 ⟨[7]⟩ userToken hissue
  obtain ⟨-, hread, hshown⟩ := hquota 0 ⟨[7]⟩ quotaToken hissue'
  refine ⟨userToken, quotaToken, hissue, hissue', ?_, (hread 5 (by decide)).2, ?_⟩
  · exact (hused 5 (by decide)).2.2 strict {} _ .empty rfl ⟨rfl, rfl⟩ rfl
  · have hneeds : (Policy.requireUserFor {} [.always]).NeedsUser "GET" := Or.inl rfl
    obtain ⟨-, hneeded⟩ := hshown strict (Policy.requireUserFor {} [.always])
      ⟨"GET", "10.0.0.1", none, some quotaToken⟩ 5 rfl rfl
    exact (hneeded hneeds).1 (by decide)

end Gate

end Turnstile
