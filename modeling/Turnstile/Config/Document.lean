import Turnstile.Config.Record
import Turnstile.Config.Validation
import Turnstile.Text.Utf8
import Turnstile.Yaml.Printer
import Turnstile.Yaml.Source

/-!
# Configurations in YAML

A configuration is read from a YAML document and has to pass validation. A file that is not there
and one that holds no Unicode text cannot be read at all.

## Main definitions

- `Config.parse?` — the configuration that a text spells, not validated
- `Config.ofYaml` — a validated configuration from a text
- `Config.ofFile` — the same from the content of a file
- `Config.toYaml` — the text of a configuration
-/

namespace Turnstile.Config

/-- The configuration that a YAML text spells. -/
def parse? (text : String) : Option Config := do
  read? (← Yaml.Document.ofText? text.toList).value

/-- The validated configuration that a YAML text spells. -/
def ofYaml (text : String) : Except Failure Config :=
  match parse? text with
  | some c => c.validated
  | none => .error (.config .unparsable)

/-- The validated configuration in a file, given the file's content if there is such a file. -/
def ofFile (content : Option Bytes) : Except Failure Config :=
  match content.bind Utf8.decode? with
  | some text => ofYaml text
  | none => .error (.config .unreadable)

/-- The YAML text of a configuration. -/
def toYaml (c : Config) : String :=
  String.ofList (Yaml.render c.toData)

end Turnstile.Config
