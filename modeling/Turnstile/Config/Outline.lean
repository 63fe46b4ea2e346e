import Turnstile.Config.Basic

/-!
# Outlines of configurations

What is shown of a configuration to those who maintain the gateway: everything but the secret.

## Main definitions

- `Config.outline` — the outline of a configuration
- `Config.Auth.outline` — the outline of the section that holds the secret
- `Policy.outline` — the outline of a policy
-/

namespace Turnstile

/-- The name of a method in outlines. -/
def AuthMethod.label : AuthMethod → String
  | .get => "Get"
  | .post => "Post"
  | .put => "Put"
  | .head => "Head"
  | .delete => "Delete"
  | .patch => "Patch"
  | .always => "Always"

/-- The outline of a policy. -/
def Policy.outline (p : Policy) : Outline :=
  .record "HandlerPolicy" [("by_address_not_token", .bool p.byAddress),
    ("token_not_required", .bool p.tokenFree),
    ("require_user_auth_for", .set (p.userFor.toList.map fun m => .plain m.label))]

namespace Config

/-- The outline of an optional number. -/
def numberOutline (n : Option UInt64) : Outline :=
  Outline.option (fun m => .nat m.toNat) n

/-- The outline of the section on listening. -/
def Server.outline (s : Server) : Outline :=
  .record "ServerConfig" [("host", .quoted s.host), ("port", .nat s.port.toNat),
    ("workers", numberOutline s.workers), ("trust_forwarded_for", .bool s.trustForwardedFor)]

/-- The outline of the section on tokens; of a secret it shows only that there is one. -/
def Auth.outline (a : Auth) : Outline :=
  .record "AuthConfig" [("secret", Outline.option (fun _ => Outline.redacted) a.secret),
    ("user_token_ttl_secs", .nat a.userTokenTtlSecs.toNat),
    ("api_token_header", .quoted a.apiTokenHeader),
    ("user_token_header", .quoted a.userTokenHeader), ("user_param", .quoted a.userParam)]

/-- The outline of the section on limiting. -/
def RateLimit.outline (r : RateLimit) : Outline :=
  .record "RateLimitConfig" [("capacity_ms", .nat r.capacityMs.toNat),
    ("interval_ms", .nat r.intervalMs.toNat), ("per_interval_ms", .nat r.perIntervalMs.toNat),
    ("token_timeout_secs", numberOutline r.tokenTimeoutSecs),
    ("clean_interval_secs", .nat r.cleanIntervalSecs.toNat),
    ("stale_after_secs", .nat r.staleAfterSecs.toNat)]

/-- The name of a backend in outlines. -/
def Backend.label : Backend → String
  | .memory => "Memory"
  | .redis => "Redis"

/-- The outline of the section on storage. -/
def Storage.outline (s : Storage) : Outline :=
  .record "StorageConfig" [("backend", .plain s.backend.label), ("redis_url", .quoted s.redisUrl),
    ("key_prefix", .quoted s.keyPrefix)]

/-- The outline of a route. -/
def routeOutline (r : Route) : Outline :=
  .record "RouteConfig" [("pattern", .quoted r.pattern), ("policy", r.policy.outline)]

/-- The outline of a configuration. -/
def outline (c : Config) : Outline :=
  .record "Config" [("gateway", .record "GatewayConfig" [("server", c.server.outline),
    ("auth", c.auth.outline), ("rate_limit", c.rateLimit.outline), ("storage", c.storage.outline),
    ("routes", .list (c.routes.map routeOutline))])]

end Config

end Turnstile
