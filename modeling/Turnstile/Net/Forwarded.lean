import Turnstile.Net.Address
import Turnstile.Text.Blank
import Turnstile.Text.Split

/-!
# The client behind proxies

A gateway behind proxies sees the proxy's address. The header `X-Forwarded-For` lists the addresses
that a request has passed; the first of them that is not internal is the client's.

## Main definitions

- `Forwarded.header` — the header's name
- `Forwarded.firstPublic?` — the first address that is not internal
- `Forwarded.resolve` — the address that a request counts as coming from
-/

namespace Turnstile.Forwarded

/-- The header that lists the addresses a request has passed. -/
def header : String := "x-forwarded-for"

/-- Takes off a pair of brackets, if both are there. -/
def unbracket (cs : List Char) : List Char :=
  match cs with
  | '[' :: rest => if rest.getLast? = some ']' then rest.dropLast else cs
  | _ => cs

/-- Reads an entry of the list, with blanks around it and perhaps in brackets. -/
def readEntry? (cs : List Char) : Option Address :=
  Address.readChars? (unbracket (Text.trim cs))

/-- The first address in a list that is not internal; entries that are no addresses are skipped. -/
def firstPublic? (list : String) : Option Address :=
  ((Text.split ',' list.toList).filterMap readEntry?).find? fun x => !x.isInternal

/-- The address that a request from `peer` counts as coming from. -/
def resolve (peer : Address) (list : Option String) : Address :=
  (list.bind firstPublic?).getD peer

end Turnstile.Forwarded
