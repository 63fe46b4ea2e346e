import Turnstile.App.Service
import Turnstile.Config.Outline

/-!
# The server

A server is an application with the store that its configuration asks for, ready to listen.

## Main definitions

- `Server.build` — the server for a configuration, over a given store or the configured one
- `Server.start` — listening
- `Server.outline` — what may be shown of a server
-/

namespace Turnstile

/-- A configured application over a store. -/
structure Server where
  config : Config
  app : App
  store : Store

namespace Server

/-- The store that a configuration asks for. -/
def storeFor (c : Config) : Except Failure Store :=
  match c.storage.backend with
  | .memory => .ok Store.empty
  | .redis => .error (.config (.invalid .redisUnavailable))

/-- The server for a configuration over a store. -/
def withStore (c : Config) (store : Store) : Server :=
  ⟨c, App.ofConfig c [], store⟩

/-- Builds a server, over `store` if one is given. -/
def build (config : Option Config) (store : Option Store) : Except Failure Server :=
  match config, store with
  | none, _ => .error (.config .missing)
  | some c, some store => .ok (withStore c store)
  | some c, none => do return withStore c (← storeFor c)

/-- The address that the server listens on. -/
def address (s : Server) : String := s.config.server.address

/-- Begins to listen. No host has a name with a zero character in it. -/
def start (s : Server) : Except Failure Unit :=
  if s.config.server.host.toList.contains '\x00' then .error (.config .unboundAddress) else .ok ()

/-- The outline of a gate over a store. -/
def gateOutline (g : Gate) (store : Store) : Outline :=
  .record "Gatekeeper" [("signer", Outline.option Signer.outline g.signer),
    ("limiter", Limiter.outline g.limiter store),
    ("policies", .record "PolicyRegistry"
      [("policies", .map (g.policies.routes.map fun r => (r.pattern, r.policy.outline))),
        ("fallback", ({} : Policy).outline)]),
    ("settings", .record "GateSettings" [("api_token_header", .quoted g.settings.apiTokenHeader),
      ("user_token_header", .quoted g.settings.userTokenHeader),
      ("user_param", .quoted g.settings.userParam),
      ("trust_forwarded_for", .bool g.settings.trustForwardedFor)]),
    ("user_token_ttl", .plain g.userTokenLifetime.words)]

/-- The outline of a server. -/
def outline (s : Server) : Outline :=
  .record "AppState" [("config", s.config.outline),
    ("gatekeeper", gateOutline s.app.gate s.store)]

/-- Whether one text occurs in another. -/
def occursIn (part : List Char) : List Char → Bool
  | [] => part = []
  | c :: rest => part.isPrefixOf (c :: rest) || occursIn part rest

/-- Whether a server's outline shows its secret. -/
def showsSecret (s : Server) : Bool :=
  match Gate.given s.config.auth.secret with
  | some secret => occursIn secret.toList s.outline.chars
  | none => false

end Server

end Turnstile
