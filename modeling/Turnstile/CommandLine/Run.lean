import Turnstile.About
import Turnstile.App.Server
import Turnstile.CommandLine.FileTree
import Turnstile.CommandLine.Options
import Turnstile.Config.Document

/-!
# The command

What the command does: it shows a text, ends with a failure, or gets a server ready. The
configuration comes from the file that is asked for, or from the environment if there is none;
options win over both, and the outcome is validated again.

## Main definitions

- `CommandLine.Trouble` — a failure and what was being done
- `CommandLine.serve` — the server that options ask for
- `CommandLine.Outcome`, `CommandLine.run` — what a run of the command ends in
-/

namespace Turnstile.CommandLine

/-- What was being done when a failure came up. -/
inductive Stage where
  | readingFile (path : String)
  | readingEnvironment
  | validating
  | starting
  | drawingSecret
deriving DecidableEq, Repr

/-- The wording of a stage, to be put before that of a failure. -/
def Stage.words : Stage → String
  | .readingFile path => "loading " ++ path ++ ": "
  | .readingEnvironment => "loading configuration from environment: "
  | .validating => "invalid configuration: "
  | .starting => ""
  | .drawingSecret => ""

/-- A failure and what was being done. -/
structure Trouble where
  stage : Stage
  failure : Failure
deriving DecidableEq, Repr

/-- The wording of a trouble. -/
def Trouble.message (t : Trouble) : String := t.stage.words ++ t.failure.message

/-- Names the stage at which something fails. -/
def during {α : Type} (stage : Stage) (x : Except Failure α) : Except Trouble α :=
  x.mapError fun f => ⟨stage, f⟩

/-- A configuration with what options say. -/
def Options.override (o : Options) (c : Config) : Config :=
  { c with
    server := { c.server with host := o.host.getD c.server.host, port := o.port.getD c.server.port }
    auth := { c.auth with secret := o.secret.or c.auth.secret } }

/-- The name of the file that sets variables. -/
def variablesPath : String := ".env"

/-- The configuration from a file, or from the environment if nothing is at its path. -/
def readConfig (o : Options) (look : String → Option Entry) (env : Environment) :
    Except Trouble Config :=
  match look o.configPath with
  | some (.file content) => during (.readingFile o.configPath) (Config.ofFile (some content))
  | some .directory => during (.readingFile o.configPath) (Config.ofFile none)
  | none =>
    let settings := match look variablesPath with
      | some (.file content) => Utf8.decode? content
      | _ => none
    during .readingEnvironment (Config.ofEnvironmentWith settings env)

/-- The configuration that options ask for. -/
def loadConfig (o : Options) (look : String → Option Entry) (env : Environment) :
    Except Trouble Config := do
  during .validating (o.override (← readConfig o look env)).validated

/-- The server that options ask for, listening. -/
def serve (o : Options) (look : String → Option Entry) (env : Environment) :
    Except Trouble Server := do
  let server ← during .starting (Server.build (some (← loadConfig o look env)) none)
  during .starting server.start
  return server

/-- What a run of the command ends in. -/
inductive Outcome where
  | shown (text : String)
  | misused
  | failed (t : Trouble)
  | serving (server : Server)

/-- How the command is used. -/
def usage : String :=
  About.description ++ "\n\nUsage: " ++ About.command ++ " [OPTIONS]\n\nOptions:\n" ++
  "  -c, --config <CONFIG>    YAML configuration file; without one the environment is used\n" ++
  "      --host <HOST>        Override the listen host\n" ++
  "  -p, --port <PORT>        Override the listen port\n" ++
  "      --secret <SECRET>    Signing secret\n" ++
  "      --json-logs          Log as JSON lines\n" ++
  "      --generate-secret    Print a fresh random secret and exit\n" ++
  "  -h, --help               Print help\n" ++
  "  -V, --version            Print version\n"

/-- Does what options ask for. -/
def perform (o : Options) (look : String → Option Entry) (env : Environment) (entropy : Entropy) :
    Outcome :=
  if o.newSecret then
    match during .drawingSecret entropy.newSecret with
    | .ok secret => .shown (secret ++ "\n")
    | .error t => .failed t
  else
    match serve o look env with
    | .ok server => .serving server
    | .error t => .failed t

/-- Runs the command with arguments. -/
def run (args : List String) (look : String → Option Entry) (env : Environment)
    (entropy : Entropy) : Outcome :=
  match parse env args with
  | .ok o => perform o look env entropy
  | .error .version => .shown (About.command ++ " " ++ About.version ++ "\n")
  | .error .help => .shown usage
  | .error .misuse => .misused

namespace Outcome

/-- What an outcome writes to the standard output. -/
def output : Outcome → String
  | .shown text => text
  | _ => ""

/-- What an outcome writes to the standard error. -/
def complaint : Outcome → String
  | .failed t => "Error: " ++ t.message ++ "\n"
  | .misused => usage
  | _ => ""

/-- The exit code of an outcome. -/
def exitCode : Outcome → Nat
  | .shown _ => 0
  | .serving _ => 0
  | .failed t => if t.failure = .halted then 101 else 1
  | .misused => 2

end Outcome

end Turnstile.CommandLine
