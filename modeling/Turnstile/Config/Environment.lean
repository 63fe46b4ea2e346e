import Turnstile.Config.Validation
import Turnstile.Environment.File

/-!
# Configurations from the environment

Secret, host, port and the place of a Redis store can be set by variables; all else has its default.
That there is such a place also chooses Redis as the backend.

## Main definitions

- `Config.ofEnvironment` — the configuration that an environment gives, not validated
- `Config.ofEnvironmentWith` — the validated one, after a file has been loaded
-/

namespace Turnstile.Config

/-- The variable for the secret. -/
def secretVariable : String := "SHIELD_SECRET"

/-- The variable for the host. -/
def hostVariable : String := "SHIELD_HOST"

/-- The variable for the port. -/
def portVariable : String := "SHIELD_PORT"

/-- The variable for the place of a Redis store. -/
def redisVariable : String := "SHIELD_REDIS_URL"

/-- The port that a text names. -/
def readPort (text : String) : Except Failure UInt16 :=
  match Text.readBounded (Nat.pow 2 16 - 1) text.toList with
  | .ok n => .ok (UInt16.ofNat n)
  | .error fault => .error (.config (.badPort fault))

/-- The section on listening that an environment gives. -/
def Server.ofEnvironment (env : Environment) : Except Failure Server := do
  let d : Server := {}
  let port ← match env.text? portVariable with
    | some text => readPort text
    | none => pure d.port
  return { d with host := (env.text? hostVariable).getD d.host, port := port }

/-- The section on storage that an environment gives. -/
def Storage.ofEnvironment (env : Environment) : Storage :=
  match env.text? redisVariable with
  | some url => { backend := .redis, redisUrl := url }
  | none => {}

/-- The configuration that an environment gives. -/
def ofEnvironment (env : Environment) : Except Failure Config := do
  let server ← Server.ofEnvironment env
  return { server := server, auth := { secret := env.text? secretVariable },
           storage := Storage.ofEnvironment env }

/-- The validated configuration that an environment gives after a file of variables, if there is
one. -/
def ofEnvironmentWith (file : Option String) (env : Environment) : Except Failure Config := do
  let env ← match file with
    | some content => EnvironmentFile.load content env
    | none => pure env
  (← ofEnvironment env).validated

end Turnstile.Config
