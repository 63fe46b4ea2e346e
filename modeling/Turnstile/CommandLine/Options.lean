import Turnstile.Config.Environment

/-!
# Options

The arguments of the command. An option has a long name and perhaps a letter; its value stands after
an equals sign, directly after the letter, or as the next argument, which then may not look like an
option itself. No option can be given twice, and there are no other arguments.

Arguments are taken from the left, and the first that asks for version or help, or cannot be taken,
decides.

## Main definitions

- `CommandLine.Options` — what can be asked for
- `CommandLine.Stop` — why there is nothing to be done with the options
- `CommandLine.parse` — the options that arguments and environment give
-/

namespace Turnstile.CommandLine

/-- What can be asked for on the command line. -/
structure Options where
  config : Option String := none
  host : Option String := none
  port : Option UInt16 := none
  secret : Option String := none
  jsonLogs : Bool := false
  newSecret : Bool := false
deriving DecidableEq, Repr

/-- Why the arguments end the command already. -/
inductive Stop where
  | misuse
  | version
  | help
deriving DecidableEq, Repr

/-- The options that take a value. -/
inductive Setting where
  | config
  | host
  | port
  | secret
deriving DecidableEq, Repr

/-- The options that take none. -/
inductive Switch where
  | jsonLogs
  | newSecret
deriving DecidableEq, Repr

/-- What an option can be. -/
inductive Name where
  | setting (s : Setting)
  | switch (s : Switch)
  | stop (s : Stop)
deriving DecidableEq, Repr

/-- The option with a long name. -/
def Name.ofLong? (name : String) : Option Name :=
  match name with
  | "config" => some (.setting .config)
  | "host" => some (.setting .host)
  | "port" => some (.setting .port)
  | "secret" => some (.setting .secret)
  | "json-logs" => some (.switch .jsonLogs)
  | "generate-secret" => some (.switch .newSecret)
  | "version" => some (.stop .version)
  | "help" => some (.stop .help)
  | _ => none

/-- The option with a letter. -/
def Name.ofLetter? (letter : Char) : Option Name :=
  match letter with
  | 'c' => some (.setting .config)
  | 'p' => some (.setting .port)
  | 'V' => some (.stop .version)
  | 'h' => some (.stop .help)
  | _ => none

/-- The port that a value names. A minus is only good before zero. -/
def port? (value : String) : Option UInt16 :=
  match value.toList with
  | '-' :: digits => do if (← Text.readDigits? digits) = 0 then return 0 else none
  | cs => (Text.readBounded (Nat.pow 2 16 - 1) cs).toOption.map UInt16.ofNat

namespace Options

/-- Gives an option its value, if it has none yet and the value is good for it. -/
def set? (o : Options) (s : Setting) (value : String) : Option Options :=
  match s with
  | .config =>
    if o.config.isSome ∨ value = "" then none else some { o with config := some value }
  | .host => if o.host.isSome then none else some { o with host := some value }
  | .port => do
    let port ← port? value
    if o.port.isSome then none else return { o with port := some port }
  | .secret => if o.secret.isSome then none else some { o with secret := some value }

/-- Turns a switch on, if it is not on yet. -/
def turnOn? (o : Options) (s : Switch) : Option Options :=
  match s with
  | .jsonLogs => if o.jsonLogs then none else some { o with jsonLogs := true }
  | .newSecret => if o.newSecret then none else some { o with newSecret := true }

/-- The path of the configuration. -/
def configPath (o : Options) : String := o.config.getD "config/shield.yaml"

end Options

/-- How far the arguments have been taken: the options so far, the one that waits for its value, and
whether options have been declared to be over. -/
structure Progress where
  options : Options := {}
  awaiting : Option Setting := none
  closed : Bool := false

/-- What is done with an argument that must not fail. -/
def orMisuse {α : Type} (x : Option α) : Except Stop α :=
  match x with
  | some a => .ok a
  | none => .error .misuse

/-- Whether an argument looks like an option. -/
def looksLikeOption (arg : List Char) : Bool :=
  arg.head? = some '-' && arg.length > 1

namespace Progress

/-- Goes on with an option, or waits for its value. -/
def give (p : Progress) (s : Setting) (value : Option String) : Except Stop Progress :=
  match value with
  | some v => do return { p with options := ← orMisuse (p.options.set? s v), awaiting := none }
  | none => .ok { p with awaiting := some s }

/-- Takes an option by its long name, with the value after an equals sign if there is one. -/
def takeLong (p : Progress) (cs : List Char) : Except Stop Progress := do
  let name := cs.takeWhile (· ≠ '=')
  let value :=
    if name.length < cs.length then some (String.ofList (cs.drop (name.length + 1))) else none
  match ← orMisuse (Name.ofLong? (String.ofList name)) with
  | .setting s => p.give s value
  | .switch s =>
    if value.isSome then .error .misuse
    else return { p with options := ← orMisuse (p.options.turnOn? s) }
  | .stop s => .error (if value.isSome then .misuse else s)

/-- Takes an option by its letter, with the value after it if there is one. -/
def takeLetter (p : Progress) (letter : Char) (rest : List Char) : Except Stop Progress := do
  let value := match rest with
    | [] => none
    | '=' :: v => some (String.ofList v)
    | v => some (String.ofList v)
  match ← orMisuse (Name.ofLetter? letter) with
  | .setting s => p.give s value
  | .switch s => return { p with options := ← orMisuse (p.options.turnOn? s) }
  | .stop s => .error s

/-- Takes one argument. -/
def take (p : Progress) (arg : String) : Except Stop Progress :=
  let cs := arg.toList
  if p.closed then .error .misuse
  else match p.awaiting with
    | some s => if looksLikeOption cs then .error .misuse else p.give s (some arg)
    | none =>
      match cs with
      | ['-', '-'] => .ok { p with closed := true }
      | '-' :: '-' :: name => p.takeLong name
      | '-' :: letter :: rest => p.takeLetter letter rest
      | _ => .error .misuse

/-- The options when all arguments have been taken. -/
def finish (p : Progress) : Except Stop Options :=
  if p.awaiting.isSome then .error .misuse else .ok p.options

end Progress

/-- The options with the secret from the environment, if none has been given. There it has to be a
text. -/
def withEnvironment (env : Environment) (o : Options) : Except Stop Options :=
  match o.secret, env.lookup Config.secretVariable with
  | none, some _ => do
    return { o with secret := some (← orMisuse (env.text? Config.secretVariable)) }
  | _, _ => .ok o

/-- The options that arguments and environment give. -/
def parse (env : Environment) (args : List String) : Except Stop Options := do
  withEnvironment env (← (← args.foldlM Progress.take {}).finish)

end Turnstile.CommandLine
