import Turnstile.Environment.Basic
import Turnstile.Failure
import Turnstile.Text.Alphanumeric
import Turnstile.Text.Blank

/-!
# Environment files

A file can set variables that are not set otherwise, one in a line: `NAME=value`, perhaps after
`export`. Values can be quoted, and quoted values go on over several lines. Outside single quotes a
backslash escapes the next character, and a dollar sign stands before the name of a variable whose
value is put in; the environment is asked first and then the lines before.

Lines are taken in order up to the first that is malformed; what comes before it counts.

## Main definitions

- `EnvironmentFile.takeLine?` — the first line, with the lines on which its quotes go on
- `EnvironmentFile.Assignment.ofLine?` — what a line says
- `EnvironmentFile.load` — the environment after a file
-/

namespace Turnstile.EnvironmentFile

open Text

/-! ### Lines -/

/-- Where one stands in a line: within quotes or not, after a backslash, or after a blank. -/
inductive Quoting where
  | bare
  | blank
  | escaped
  | single
  | singleEscaped
  | double
  | doubleEscaped
  | comment
deriving DecidableEq

/-- Outside quotes, what follows a character. -/
def Quoting.opened (c : Char) : Quoting :=
  match c with
  | '\\' => .escaped
  | '"' => .double
  | '\'' => .single
  | _ => .bare

/-- Where one stands after a character. A comment begins at a hash after a single blank. -/
def Quoting.after (q : Quoting) (c : Char) : Quoting :=
  match q with
  | .bare => if isBlank c && c ≠ '\n' && c ≠ '\r' then .blank else .opened c
  | .blank => if c = '#' then .comment else .opened c
  | .escaped => .bare
  | .single => if c = '\\' then .singleEscaped else if c = '\'' then .bare else .single
  | .singleEscaped => .single
  | .double => if c = '\\' then .doubleEscaped else if c = '"' then .bare else .double
  | .doubleEscaped => .double
  | .comment => .comment

/-- Goes through a line up to a comment: where one stands then, and the line up to there. -/
def Quoting.through (q : Quoting) : List Char → Quoting × List Char
  | [] => (q, [])
  | c :: rest =>
    if q.after c = .comment then (.comment, [])
    else
      let (q, line) := (q.after c).through rest
      (q, c :: line)

/-- A text cut after its first line feed. -/
def cutLine (cs : List Char) : List Char × List Char :=
  let line := cs.takeWhile (· ≠ '\n')
  let rest := cs.drop line.length
  (line ++ rest.take 1, rest.drop 1)

/-- A line without the break at its end. -/
def dropBreak (line : List Char) : List Char :=
  match line.reverse with
  | '\n' :: '\r' :: rest => rest.reverse
  | '\n' :: rest => rest.reverse
  | _ => line

/-- The first line of a text and the text after it. As long as quotes are open, or a blank or a
backslash is at the end of the text, a line is not complete; `before` is what has been read of
it. -/
def takeLineFrom? : Nat → List Char → Quoting → List Char → Option (List Char × List Char)
  | 0, _, _, _ => none
  | fuel + 1, before, q, cs =>
    if cs = [] then none
    else
      let (line, rest) := cutLine cs
      if (trimStart (before ++ line)).head? = some '#' then some ([], rest)
      else
        let (q, read) := q.through line
        match q with
        | .bare => some (dropBreak (before ++ line), rest)
        | .comment => some (before ++ read, rest)
        | q => takeLineFrom? fuel (before ++ line) q rest

/-- The first line of a text, without a comment at its end, and the text after it. -/
def takeLine? (cs : List Char) : Option (List Char × List Char) :=
  takeLineFrom? (cs.length + 1) [] .bare cs

/-! ### Values -/

/-- What the next character of a value counts as. -/
inductive Mode where
  | text
  | escape
  | single
  | name (read : List Char)
  | braced (read : List Char)
  | ended
deriving DecidableEq

/-- The character that an escape stands for. -/
def escaped? (c : Char) : Option Char :=
  if c = 'n' then some '\n' else if "\\'\"$ ".toList.contains c then some c else none

/-- What a value has come to: whether double quotes are open, how to take the next character, and
the text. -/
structure Reading where
  double : Bool := false
  mode : Mode := .text
  text : List Char := []

/-- A reading with a character more. -/
def Reading.push (r : Reading) (c : Char) : Reading := { r with text := r.text ++ [c] }

/-- A reading in another mode. -/
def Reading.to (r : Reading) (mode : Mode) : Reading := { r with mode := mode }

/-- Puts in the value of a variable. -/
def Reading.substitute (value : List Char → List Char) (name : List Char) (r : Reading) : Reading :=
  { r with mode := .text, text := r.text ++ value name }

/-- Takes a character of plain or doubly quoted text. -/
def Reading.takeText (r : Reading) (c : Char) : Reading :=
  if c = '$' then r.to (.name [])
  else if c = '\\' then r.to .escape
  else if c = '"' then { r with double := !r.double }
  else if r.double then r.push c
  else if c = '\'' then r.to .single
  else if c = ' ' ∨ c = '\t' then r.to .ended
  else r.push c

/-- Takes the next character of a value. The character after the name of a variable is text,
whatever it is, unless another name begins with it. -/
def Reading.take? (value : List Char → List Char) (r : Reading) (c : Char) : Option Reading :=
  match r.mode with
  | .text => some (r.takeText c)
  | .escape => (escaped? c).map fun d => (r.push d).to .text
  | .single => some (if c = '\'' then r.to .text else r.push c)
  | .name read =>
    if isAlphanumeric c then some (r.to (.name (read ++ [c])))
    else if c = '\x7b' ∧ read = [] then some (r.to (.braced []))
    else
      let r := r.substitute value read
      some (if c = '$' then r.to (.name []) else r.push c)
  | .braced read =>
    if c = '\x7d' then some (r.substitute value read) else some (r.to (.braced (read ++ [c])))
  | .ended => if c = ' ' ∨ c = '\t' then some r else none

/-- The text of a value that has been read to its end; quotes and braces have to be closed. -/
def Reading.finish? (value : List Char → List Char) (r : Reading) : Option (List Char) :=
  if r.double then none
  else match r.mode with
    | .single => none
    | .braced _ => none
    | .name read => some (r.substitute value read).text
    | _ => some r.text

/-- Reads on in a value. After a blank that ends it only a comment may follow. -/
def Reading.run? (value : List Char → List Char) (r : Reading) : List Char → Option (List Char)
  | [] => r.finish? value
  | c :: rest =>
    if r.mode = .ended ∧ c = '#' then r.finish? value
    else do (← r.take? value c).run? value rest

/-! ### Assignments -/

/-- A variable and its value. -/
structure Assignment where
  name : String
  value : String
deriving DecidableEq, Repr

/-- Whether a character can begin the name of a variable. -/
def beginsName (c : Char) : Bool := c.isAlpha || c = '_'

/-- Whether a character can stand in the name of a variable. -/
def continuesName (c : Char) : Bool := c.isAlphanum || c = '_' || c = '.'

/-- The name at the front of a line, and the line after it and blanks. -/
def takeName? (cs : List Char) : Option (String × List Char) :=
  if cs.head?.any beginsName then
    let name := cs.takeWhile continuesName
    some (String.ofList name, trimStart (cs.drop name.length))
  else none

/-- The name that a line sets, and the line after the equals sign. The word `export` may stand
before it, and is a name only if an equals sign follows. -/
def takeTarget? (cs : List Char) : Option (String × List Char) := do
  let (name, rest) ← takeName? cs
  match rest with
  | '=' :: rest => return (name, rest)
  | _ =>
    if name = "export" then
      match ← takeName? rest with
      | (name, '=' :: rest) => return (name, rest)
      | _ => none
    else none

/-- What a line says: nothing, or the value of a variable. -/
def Assignment.ofLine? (value : List Char → List Char) (line : List Char) :
    Option (Option Assignment) := do
  let line := trim line
  if line = [] ∨ line.head? = some '#' then return none
  else
    let (name, rest) ← takeTarget? line
    let rest := trimStart rest
    if rest = [] ∨ rest.head? = some '#' then return some ⟨name, ""⟩
    else return some ⟨name, String.ofList (← Reading.run? value {} rest)⟩

/-! ### Files -/

/-- The value to put in for a name: from the environment, or from the last line that set it. -/
def valueOf (env : Environment) (lines : List Assignment) (name : List Char) : List Char :=
  match env.text? (String.ofList name) with
  | some s => s.toList
  | none => ((lines.find? fun a => a.name = String.ofList name).map fun a => a.value.toList).getD []

/-- Takes one assignment over into the environment, unless the variable is set to a text already. No
value can hold a zero character. -/
def assign (env : Environment) (a : Assignment) : Except Failure Environment :=
  if (env.text? a.name).isSome then .ok env
  else if a.value.toList.contains '\x00' then .error .halted
  else .ok (env.insert a.name a.value)

/-- Takes the lines of a text over into the environment. `lines` are the assignments before, last
first. -/
def loadFrom : Nat → Environment → List Assignment → List Char → Except Failure Environment
  | 0, env, _, _ => .ok env
  | fuel + 1, env, lines, cs =>
    match takeLine? cs with
    | none => .ok env
    | some (line, rest) =>
      match Assignment.ofLine? (valueOf env lines) line with
      | none => .ok env
      | some none => loadFrom fuel env lines rest
      | some (some a) => do loadFrom fuel (← assign env a) (a :: lines) rest

/-- The environment after a file. A mark at the start of the file is dropped. -/
def load (content : String) (env : Environment) : Except Failure Environment :=
  let cs := content.toList
  let cs := if cs.head? = some '\uFEFF' then cs.drop 1 else cs
  loadFrom (cs.length + 1) env [] cs

end Turnstile.EnvironmentFile
