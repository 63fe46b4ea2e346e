/-!
# What the program says of itself

## Main definitions

- `About.version`, `About.name`, `About.description` — the facts
- `About.lines` — all of them as lines in order
-/

namespace Turnstile.About

/-- The version that is reported everywhere. -/
def version : String := "0.1.0"

/-- The name under which the program is distributed. -/
def name : String := "shield-rs"

/-- The name of the command. -/
def command : String := "shield"

/-- What the program is for. -/
def description : String :=
  "Stateless token authentication and time-debt rate limiting for HTTP API gateways"

/-- The facts as lines. -/
def lines : List String :=
  ["description=" ++ description, "name=" ++ name, "version=" ++ version]

end Turnstile.About
