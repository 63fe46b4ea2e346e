import Turnstile.Config.Record
import Turnstile.Proofs.Data.Shows

/-!
# Configurations are read as they are written

A configuration is written as a tree of records. Whatever shows that tree, in any format, is read as
the configuration, field by field and section by section.

## Main statements

- `Config.read?_of_shows` — a value that shows the tree of a configuration is read as it
- `Config.simple_toData` — the tree of a configuration is simple
- `Config.read?_toData` — the tree itself is read as the configuration
-/

namespace Turnstile

variable {σ : Type} [Source σ] {v : σ}

/-! ### Single fields -/

namespace Config

theorem read16?_of_shows {n : UInt16} (h : Shows v (.nat n.toNat)) : read16? v = some n := by
  have hbound : n.toNat ≤ Nat.pow 2 16 - 1 := Nat.le_sub_one_of_lt n.toNat_lt
  rw [read16?, h.nat?_eq hbound]
  simp

theorem read64?_of_shows {n : UInt64} (h : Shows v (.nat n.toNat)) : read64? v = some n := by
  have hbound : n.toNat ≤ Nat.pow 2 64 - 1 := Nat.le_sub_one_of_lt n.toNat_lt
  rw [read64?, h.nat?_eq hbound]
  simp

theorem readNumber?_of_shows {n : Option UInt64} (h : Shows v (numberData n)) :
    Record.optional? read64? v = some n :=
  h.optional?_eq (fun _ => nofun) fun _ => read64?_of_shows

theorem readText?_of_shows {s : Option String} (h : Shows v (Data.option .text s)) :
    Record.optional? Source.text? v = some s :=
  h.optional?_eq (fun _ => nofun) fun _ => Shows.text?_eq

@[simp] theorem Backend.ofName?_name (b : Backend) : ofName? b.name = some b := by
  cases b <;> decide

theorem readBackend?_of_shows {b : Backend} (h : Shows v (.text b.name)) :
    readBackend? v = some b := by
  rw [readBackend?, h.variant?_eq]
  exact b.ofName?_name

end Config

namespace Policy

theorem readMethod?_of_shows {m : AuthMethod} (h : Shows v (.text m.name)) :
    readMethod? v = some m := by
  rw [readMethod?, h.variant?_eq]
  exact m.ofName?_name

theorem readMethods?_of_shows {ms : MethodSet}
    (h : Shows v (.list (ms.toList.map fun m => .text m.name))) :
    readMethods? v = some ms := by
  have hlist : Record.list? readMethod? v = some ms.toList :=
    h.list?_eq fun _ _ _ hshows => readMethod?_of_shows hshows
  rw [readMethods?, hlist]
  exact congrArg some ms.ofList_toList

/-! ### Policies and routes -/

theorem read?_of_shows {p : Policy} (h : Shows v p.toData) : read? v = some p := by
  obtain ⟨fields, hopen, hholds⟩ := Record.exists_open?_of_shows fieldNames h rfl (by decide)
  simp only [toEntries, List.forall_mem_cons] at hholds
  obtain ⟨hbyAddress, htokenFree, huserFor, -⟩ := hholds
  rw [read?, hopen]
  simp [hbyAddress.field?_eq fun _ => Shows.bool?_eq, htokenFree.field?_eq fun _ => Shows.bool?_eq,
    huserFor.field?_eq fun _ => readMethods?_of_shows]

theorem simple_of_mem_toEntries {isKey : String → Prop} {p : Policy} :
    ∀ e ∈ p.toEntries, e.2.Simple isKey 1 := by
  simp only [toEntries, List.forall_mem_cons]
  exact ⟨.bool _, .bool _, .list (List.forall_mem_map.2 fun m _ => .text m.name), nofun⟩

end Policy

namespace Route

theorem read?_of_shows {r : Route} (h : Shows v r.toData) : read? v = some r := by
  obtain ⟨fields, hentries, -, hlists⟩ := Record.exists_lists_of_shows h
  cases hlists with
  | @cons pattern _ others _ hpattern hothers =>
    obtain ⟨name, w⟩ := pattern
    obtain ⟨rfl, hshows⟩ : name = "pattern" ∧ Shows w (.text r.pattern) := hpattern
    have hne : ∀ e ∈ others, e.1 ≠ "pattern" := by
      intro e he heq
      have hmem : e.1 ∈ others.map (·.1) := List.mem_map.2 ⟨e, he, rfl⟩
      rw [Record.Lists.names_eq hothers, heq] at hmem
      exact absurd hmem (by decide : "pattern" ∉ Policy.fieldNames)
    have hselect : Record.select? ["pattern"] (("pattern", w) :: others) =
        some [("pattern", w)] := by
      have hnone : (others.filter fun e => ["pattern"].contains e.1) = [] := by
        rw [List.filter_eq_nil_iff]
        intro e he
        simpa using hne e he
      rw [Record.select?, List.filter_cons_of_pos (by simp), hnone]
      rfl
    have hrest : (("pattern", w) :: others).filter (fun e => e.1 ≠ "pattern") = others := by
      rw [List.filter_cons_of_neg (by simp), List.filter_eq_self]
      intro e he
      simpa using hne e he
    have hsimple : r.policy.toData.Simple (fun _ => True) 2 :=
      .record (fun _ _ => trivial) Policy.simple_of_mem_toEntries
    have hpolicy : Policy.read? (Data.record r.policy.toEntries) = some r.policy :=
      Policy.read?_of_shows hsimple.shows
    have hcontents := Record.Lists.contents_eq hothers
    simp only [Option.bind_eq_bind] at hcontents
    rw [read?, hentries]
    simp only [Option.bind_eq_bind, Option.bind_some, hselect, hrest, Record.required?,
      List.lookup_cons_self, hshows.text?_eq, hcontents, hpolicy]
    rfl

end Route

/-! ### Sections -/

namespace Config

theorem Server.read?_of_shows {s : Server} (h : Shows v s.toData) : Server.read? v = some s := by
  obtain ⟨fields, hopen, hholds⟩ := Record.exists_open?_of_shows
    ["host", "port", "workers", "trust_forwarded_for"] h rfl (by decide)
  simp only [List.forall_mem_cons] at hholds
  obtain ⟨hhost, hport, hworkers, htrust, -⟩ := hholds
  rw [Server.read?, hopen]
  simp [hhost.field?_eq fun _ => Shows.text?_eq, hport.field?_eq fun _ => read16?_of_shows,
    hworkers.field?_eq fun _ => readNumber?_of_shows, htrust.field?_eq fun _ => Shows.bool?_eq]

theorem Auth.read?_of_shows {a : Auth} (h : Shows v a.toData) : Auth.read? v = some a := by
  obtain ⟨fields, hopen, hholds⟩ := Record.exists_open?_of_shows
    ["secret", "user_token_ttl_secs", "api_token_header", "user_token_header", "user_param"] h rfl
    (by decide)
  simp only [List.forall_mem_cons] at hholds
  obtain ⟨hsecret, httl, hapi, huser, hparam, -⟩ := hholds
  rw [Auth.read?, hopen]
  simp [hsecret.field?_eq fun _ => readText?_of_shows, httl.field?_eq fun _ => read64?_of_shows,
    hapi.field?_eq fun _ => Shows.text?_eq, huser.field?_eq fun _ => Shows.text?_eq,
    hparam.field?_eq fun _ => Shows.text?_eq]

theorem RateLimit.read?_of_shows {r : RateLimit} (h : Shows v r.toData) :
    RateLimit.read? v = some r := by
  obtain ⟨fields, hopen, hholds⟩ := Record.exists_open?_of_shows
    ["capacity_ms", "interval_ms", "per_interval_ms", "token_timeout_secs", "clean_interval_secs",
      "stale_after_secs"] h rfl (by decide)
  simp only [List.forall_mem_cons] at hholds
  obtain ⟨hcapacity, hinterval, hperInterval, htimeout, hclean, hstale, -⟩ := hholds
  rw [RateLimit.read?, hopen]
  simp [hcapacity.field?_eq fun _ => read64?_of_shows,
    hinterval.field?_eq fun _ => read64?_of_shows, hperInterval.field?_eq fun _ => read64?_of_shows,
    htimeout.field?_eq fun _ => readNumber?_of_shows, hclean.field?_eq fun _ => read64?_of_shows,
    hstale.field?_eq fun _ => read64?_of_shows]

theorem Storage.read?_of_shows {s : Storage} (h : Shows v s.toData) : Storage.read? v = some s := by
  obtain ⟨fields, hopen, hholds⟩ := Record.exists_open?_of_shows
    ["backend", "redis_url", "key_prefix"] h rfl (by decide)
  simp only [List.forall_mem_cons] at hholds
  obtain ⟨hbackend, hurl, hprefix, -⟩ := hholds
  rw [Storage.read?, hopen]
  simp [hbackend.field?_eq fun _ => readBackend?_of_shows, hurl.field?_eq fun _ => Shows.text?_eq,
    hprefix.field?_eq fun _ => Shows.text?_eq]

/-! ### Whole configurations -/

/-- A value that shows the tree of a configuration is read as the configuration. -/
theorem read?_of_shows {c : Config} (h : Shows v c.toData) : read? v = some c := by
  obtain ⟨fields, hopen, hholds⟩ := Record.exists_open?_of_shows
    ["server", "auth", "rate_limit", "storage", "routes"] h rfl (by decide)
  simp only [List.forall_mem_cons] at hholds
  obtain ⟨hserver, hauth, hrateLimit, hstorage, hroutes, -⟩ := hholds
  have hlist : ∀ w : σ, Shows w (.list (c.routes.map Route.toData)) →
      Record.list? Route.read? w = some c.routes :=
    fun _ hw => hw.list?_eq fun _ _ _ => Route.read?_of_shows
  rw [read?, hopen]
  simp [hserver.field?_eq fun _ => Server.read?_of_shows,
    hauth.field?_eq fun _ => Auth.read?_of_shows,
    hrateLimit.field?_eq fun _ => RateLimit.read?_of_shows,
    hstorage.field?_eq fun _ => Storage.read?_of_shows, hroutes.field?_eq hlist]

/-! ### The tree of a configuration -/

/-- The names of all fields of a configuration. -/
def fieldNames : List String :=
  ["server", "auth", "rate_limit", "storage", "routes", "host", "port", "workers",
    "trust_forwarded_for", "secret", "user_token_ttl_secs", "api_token_header", "user_token_header",
    "user_param", "capacity_ms", "interval_ms", "per_interval_ms", "token_timeout_secs",
    "clean_interval_secs", "stale_after_secs", "backend", "redis_url",
    "key_prefix", "pattern", "by_address_not_token", "token_not_required", "require_user_auth_for"]

variable {isKey : String → Prop}

theorem simple_numberData (depth : Nat) (n : Option UInt64) :
    (numberData n).Simple isKey depth := by
  cases n with
  | none => exact .null
  | some n => exact .nat n.toNat_lt

theorem simple_textData (depth : Nat) (s : Option String) :
    (Data.option .text s).Simple isKey depth := by
  cases s with
  | none => exact .null
  | some s => exact .text s

theorem simple_record {depth : Nat} {entries : List (String × Data)}
    (hkeys : ∀ name ∈ fieldNames, isKey name) (hnames : ∀ e ∈ entries, e.1 ∈ fieldNames)
    (parts : ∀ e ∈ entries, e.2.Simple isKey depth) :
    (Data.record entries).Simple isKey (depth + 1) :=
  .record (fun e he => hkeys e.1 (hnames e he)) parts

variable (hkeys : ∀ name ∈ fieldNames, isKey name)

include hkeys

theorem Server.simple_toData (s : Server) : s.toData.Simple isKey 3 := by
  have hport : s.port.toNat < 18446744073709551616 := Nat.lt_of_lt_of_le s.port.toNat_lt (by decide)
  refine simple_record hkeys (by simp [fieldNames]) ?_
  simp only [List.forall_mem_cons]
  exact ⟨.text _, .nat hport, simple_numberData 2 _, .bool _, nofun⟩

theorem Auth.simple_toData (a : Auth) : a.toData.Simple isKey 3 := by
  refine simple_record hkeys (by simp [fieldNames]) ?_
  simp only [List.forall_mem_cons]
  exact ⟨simple_textData 2 _, .nat a.userTokenTtlSecs.toNat_lt, .text _, .text _, .text _, nofun⟩

theorem RateLimit.simple_toData (r : RateLimit) : r.toData.Simple isKey 3 := by
  refine simple_record hkeys (by simp [fieldNames]) ?_
  simp only [List.forall_mem_cons]
  exact ⟨.nat r.capacityMs.toNat_lt, .nat r.intervalMs.toNat_lt, .nat r.perIntervalMs.toNat_lt,
    simple_numberData 2 _, .nat r.cleanIntervalSecs.toNat_lt, .nat r.staleAfterSecs.toNat_lt, nofun⟩

theorem Storage.simple_toData (s : Storage) : s.toData.Simple isKey 3 := by
  refine simple_record hkeys (by simp [fieldNames]) ?_
  simp only [List.forall_mem_cons]
  exact ⟨.text _, .text _, .text _, nofun⟩

theorem simple_routeData (r : Route) : r.toData.Simple isKey 2 := by
  refine simple_record hkeys (by simp [Policy.toEntries, fieldNames]) ?_
  exact List.forall_mem_cons.2 ⟨.text _, Policy.simple_of_mem_toEntries⟩

/-- The tree of a configuration is simple. -/
theorem simple_toData (c : Config) : c.toData.Simple isKey 4 := by
  have hroutes : (Data.list (c.routes.map Route.toData)).Simple isKey 3 :=
    .list (List.forall_mem_map.2 fun r _ => simple_routeData hkeys r)
  refine simple_record hkeys (by simp [fieldNames]) ?_
  simp only [List.forall_mem_cons]
  exact ⟨c.server.simple_toData hkeys, c.auth.simple_toData hkeys, c.rateLimit.simple_toData hkeys,
    c.storage.simple_toData hkeys, hroutes, nofun⟩

omit hkeys

/-- The tree of a configuration is read as the configuration. -/
theorem read?_toData (c : Config) : read? c.toData = some c := by
  have hsimple : c.toData.Simple (fun _ => True) 4 := c.simple_toData fun _ _ => trivial
  exact read?_of_shows hsimple.shows

end Config

end Turnstile
