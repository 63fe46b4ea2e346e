import Turnstile.Text.Utf8

/-!
# Environments

The variables that a program is started with: names and values, each name once. A value is bytes,
and only one that is Unicode text can be read.

## Main definitions

- `Environment` — the variables
- `Environment.text?`, `Environment.insert` — reading and setting one
-/

namespace Turnstile

/-- Variables by their names. -/
abbrev Environment := List (String × Bytes)

namespace Environment

/-- The value of a variable, if it is set to a text. -/
def text? (env : Environment) (name : String) : Option String :=
  (env.lookup name).bind Utf8.decode?

/-- Sets a variable. -/
def insert (env : Environment) (name value : String) : Environment :=
  (name, Utf8.encode value) :: env.filter (·.1 ≠ name)

end Environment

end Turnstile
