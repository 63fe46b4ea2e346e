import Turnstile.Text.Utf8

/-!
# Request targets

The URI of a request in one of its four forms: a path (`/a?b`), an absolute URI (`http://h/a?b`), an
authority alone (`h:80`), or an asterisk. A fragment is dropped, and so are the differences in case
of the schemes `http` and `https`.

## Main definitions

- `Uri` — a request target in parts
- `Uri.read?` — the reader
- `Uri.path`, `Uri.render` — the path as it is used, and the written form
-/

namespace Turnstile

/-- A request target in parts. The path may be empty, and is then used as `/` if there is a
scheme. -/
structure Uri where
  scheme : Option String
  authority : Option String
  rawPath : String
  query : Option String
deriving DecidableEq, Repr

namespace Uri

/-- The path as it is used. -/
def path (u : Uri) : String :=
  if u.rawPath = "" ∧ (u.scheme.isSome ∨ u.query.isSome) then "/" else u.rawPath

/-- The written form. -/
def render (u : Uri) : String :=
  ((u.scheme.map (· ++ "://")).getD "") ++ u.authority.getD "" ++ u.path
    ++ ((u.query.map ("?" ++ ·)).getD "")

/-! ### Characters -/

/-- Whether a character may stand in a path. -/
def isPathChar (c : Char) : Bool :=
  let n := c.toNat
  n = 0x21 || (0x24 ≤ n && n ≤ 0x3B) || n = 0x3D || (0x40 ≤ n && n ≤ 0x5F)
    || (0x61 ≤ n && n ≤ 0x7A) || n = 0x7C || n = 0x7E || c = '"' || c = '\x7b' || c = '\x7d'

/-- Whether a character may stand in a query. -/
def isQueryChar (c : Char) : Bool :=
  let n := c.toNat
  n = 0x21 || (0x24 ≤ n && n ≤ 0x3B) || n = 0x3D || (0x3F ≤ n && n ≤ 0x7E)

/-- Whether a character may stand in a scheme. -/
def isSchemeChar (c : Char) : Bool :=
  c.isAlphanum || c = '+' || c = '-' || c = '.'

/-- Whether a character may stand in an authority, apart from the percent sign. -/
def isAuthorityChar (c : Char) : Bool :=
  c.isAlphanum || "!$&'()*+,-.:;=@[]_~".toList.contains c

/-! ### Path and query -/

/-- Reads path and query up to a fragment. -/
def readPathAndQuery? (cs : List Char) : Option (String × Option String) :=
  let cs := cs.takeWhile (· ≠ '#')
  let path := cs.takeWhile (· ≠ '?')
  if !path.all isPathChar then none
  else
    match cs.dropWhile (· ≠ '?') with
    | [] => some (String.ofList path, none)
    | _ :: query =>
      if query.all isQueryChar then some (String.ofList path, some (String.ofList query)) else none

/-! ### Authority -/

/-- What has been seen of an authority: colons and a percent sign that may yet turn out to belong to
user information or brackets, the brackets, and whether the last character was an `@`. -/
structure AuthorityScan where
  colons : Nat := 0
  opened : Bool := false
  closed : Bool := false
  percent : Bool := false
  afterAt : Bool := false

/-- Takes one more character of an authority into account. -/
def AuthorityScan.step (s : AuthorityScan) (c : Char) : Option AuthorityScan :=
  let s := { s with afterAt := c = '@' }
  if c = ':' then (if s.colons ≥ 8 then none else some { s with colons := s.colons + 1 })
  else if c = '[' then (if s.percent || s.opened then none else some { s with opened := true })
  else if c = ']' then
    if !s.opened || s.closed then none
    else some { s with closed := true, colons := 0, percent := false }
  else if c = '@' then some { s with colons := 0, percent := false }
  else if c = '%' then some { s with percent := true }
  else if isAuthorityChar c then some s
  else none

/-- Whether a text is an authority: brackets pair up, at most one colon and no percent sign stand
outside them and outside user information, and something follows the `@`. -/
def isAuthority (cs : List Char) : Bool :=
  match cs.foldlM AuthorityScan.step {} with
  | some s => s.opened = s.closed && s.colons ≤ 1 && !s.afterAt && !s.percent
  | none => false

/-- Whether a character ends an authority. -/
def endsAuthority (c : Char) : Bool :=
  c = '/' || c = '?' || c = '#'

/-! ### Scheme -/

/-- The longest scheme that is understood. -/
def maxSchemeLength : Nat := 64

/-- The scheme at the front of a text and what follows `://`. Without a scheme the text is left as
it is; a scheme that is too long is refused. -/
def readScheme? (cs : List Char) : Option (Option String × List Char) :=
  let scheme := cs.takeWhile isSchemeChar
  let lower := scheme.map Char.toLower
  match cs.dropWhile isSchemeChar with
  | ':' :: '/' :: '/' :: rest =>
    if lower = "http".toList ∨ lower = "https".toList then some (some (String.ofList lower), rest)
    else if cs.length ≤ 3 then some (none, cs)
    else if scheme.length > maxSchemeLength then none
    else some (some (String.ofList scheme), rest)
  | _ => some (none, cs)

/-! ### Whole targets -/

/-- A target that is a path. -/
def readOrigin? (cs : List Char) : Option Uri := do
  let (path, query) ← readPathAndQuery? cs
  return ⟨none, none, path, query⟩

/-- A target that is an authority alone, or an absolute URI. -/
def readFull? (cs : List Char) : Option Uri := do
  let (scheme, cs) ← readScheme? cs
  let authority := cs.takeWhile fun c => !endsAuthority c
  let rest := cs.dropWhile fun c => !endsAuthority c
  if !isAuthority authority then none
  else
    match scheme with
    | none =>
      if rest = [] then return ⟨none, some (String.ofList authority), "", none⟩ else none
    | some scheme =>
      if authority = [] then none
      else
        let (path, query) ← readPathAndQuery? rest
        return ⟨some scheme, some (String.ofList authority), path, query⟩

/-- The longest target in bytes. -/
def maxLength : Nat := 65534

/-- Reads a request target. -/
def read? (s : String) : Option Uri :=
  let cs := s.toList
  if s.utf8ByteSize > maxLength then none
  else if cs = [] then none
  else if cs = ['*'] then some ⟨none, none, "*", none⟩
  else if cs.head? = some '/' then readOrigin? cs
  else readFull? cs

end Uri

end Turnstile
