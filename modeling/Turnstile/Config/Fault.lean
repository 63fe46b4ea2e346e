import Turnstile.Text.Digits

/-!
# What can be wrong with a configuration

The causes for which a configuration is refused, and their wording. A cause that arises while text
is being read stands for all its details: the reader's own account of them is not part of the
message.

## Main definitions

- `Config.Invalid` — a value that breaks a rule of validation
- `Config.Fault` — any reason why there is no usable configuration
-/

namespace Turnstile.Config

/-- The two headers that carry tokens, by their configuration key. -/
inductive TokenHeader where
  | api
  | user
deriving DecidableEq, Repr

/-- The configuration key of a token header. -/
def TokenHeader.key : TokenHeader → String
  | .api => "api_token_header"
  | .user => "user_token_header"

/-- A rule of validation that a configuration breaks. -/
inductive Invalid where
  | emptyHost
  | zeroPort
  | zeroWorkers
  | manyWorkers
  | emptyHeader (header : TokenHeader)
  | malformedHeader (header : TokenHeader) (value : String)
  | sameHeaders
  | emptyUserParam
  | zeroUserTokenTtl
  | zeroCapacity
  | zeroInterval
  | zeroPerInterval
  | zeroTokenTimeout
  | zeroCleanInterval
  | earlySweep
  | redisUnavailable
  | relativePattern (pattern : String)
  | contradictoryPolicy (pattern : String)
  | duplicatePattern (pattern : String)
deriving DecidableEq, Repr

/-- The wording of a broken rule. -/
def Invalid.message : Invalid → String
  | .emptyHost => "Server host cannot be empty"
  | .zeroPort => "Server port must be greater than 0"
  | .zeroWorkers => "Worker count must be greater than 0"
  | .manyWorkers => "Worker count seems too high (>1000)"
  | .emptyHeader header => header.key ++ " cannot be empty"
  | .malformedHeader header value => header.key ++ " is not a valid header name: " ++ value
  | .sameHeaders => "api and user token headers must differ"
  | .emptyUserParam => "user_param cannot be empty"
  | .zeroUserTokenTtl => "user_token_ttl_secs must be greater than 0"
  | .zeroCapacity => "capacity_ms must be greater than 0"
  | .zeroInterval => "interval_ms must be greater than 0"
  | .zeroPerInterval => "per_interval_ms must be greater than 0"
  | .zeroTokenTimeout => "token_timeout_secs must be greater than 0 when set"
  | .zeroCleanInterval => "clean_interval_secs must be greater than 0"
  | .earlySweep => "stale_after_secs is shorter than an empty bucket takes to refill"
  | .redisUnavailable => "Redis storage needs the 'redis' feature"
  | .relativePattern pattern => "Route pattern must start with '/': " ++ pattern
  | .contradictoryPolicy pattern =>
    "Route " ++ pattern ++ " cannot be both address limited and tokenless"
  | .duplicatePattern pattern => "Duplicate route pattern: " ++ pattern

/-- Why there is no usable configuration, or why it cannot be served. -/
inductive Fault where
  | missing
  | unreadable
  | unparsable
  | unboundAddress
  | badPort (fault : NumberFault)
  | invalid (rule : Invalid)
  | other (text : String)
deriving DecidableEq, Repr

/-- The wording of a fault. -/
def Fault.message : Fault → String
  | .missing => "Configuration is required"
  | .unreadable => "Failed to read config file"
  | .unparsable => "Failed to parse config"
  | .unboundAddress => "Failed to bind"
  | .badPort fault => "Invalid SHIELD_PORT: " ++ fault.message
  | .invalid rule => rule.message
  | .other text => text

end Turnstile.Config
