import Turnstile.CommandLine.Run

/-!
# The `shield` command

The outermost layer: it hands arguments, environment, files and randomness to the command and writes
what comes of it.
-/

namespace Turnstile.Main

open CommandLine

/-- What is at a path. -/
def look (path : String) : IO (Option Entry) := do
  try
    return some (.file (← IO.FS.readBinFile path).toList)
  catch e =>
    match e with
    | .noFileOrDirectory .. => return none
    | _ => return some .directory

/-- The variables that can matter: those of the configuration and those that a file of variables may
mention. -/
def variableNames (settings : Option Entry) : List String :=
  let mentioned := match settings with
    | some (.file content) =>
      let spaced := (Utf8.decodeLenient content).toList.map fun c =>
        if EnvironmentFile.continuesName c then c else ' '
      (String.ofList spaced).splitOn " "
    | _ => []
  ([Config.secretVariable, Config.hostVariable, Config.portVariable, Config.redisVariable]
    ++ mentioned).eraseDups.filter (· ≠ "")

/-- The environment, as far as it is asked for. -/
def environment (names : List String) : IO Environment := do
  let values ← names.mapM fun name => do
    return (← IO.getEnv name).map fun value => (name, Utf8.encode value)
  return values.filterMap id

/-- The path of the configuration that arguments ask for. -/
def configPath (env : Environment) (args : List String) : String :=
  match parse env args with
  | .ok o => o.configPath
  | .error _ => ({} : Options).configPath

end Turnstile.Main

open Turnstile Turnstile.Main in
/-- Runs the command. -/
def main (args : List String) : IO UInt32 := do
  let settings ← look CommandLine.variablesPath
  let env ← environment (variableNames settings)
  let path := configPath env args
  let config ← look path
  let entropy : Entropy := ⟨(← IO.getRandomBytes 48).toList⟩
  let find (p : String) : Option Entry :=
    if p = path then config else if p = CommandLine.variablesPath then settings else none
  let outcome := CommandLine.run args find env entropy
  IO.print outcome.output
  IO.eprint outcome.complaint
  if let .serving server := outcome then
    IO.println server.address
  return UInt32.ofNat outcome.exitCode
