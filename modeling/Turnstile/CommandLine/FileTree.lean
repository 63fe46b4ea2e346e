import Turnstile.Bytes

/-!
# Files below a directory

What a command can find in the directory that it runs in. A path is followed name by name; one that
leads out of the directory finds nothing but directories.

## Main definitions

- `FileTree` — the files below a directory
- `FileTree.find?` — what a path leads to
-/

namespace Turnstile

/-- What a path can lead to. -/
inductive Entry where
  | directory
  | file (content : Bytes)

/-- The files below a directory, by the names on the way to them. -/
structure FileTree where
  files : List (List String × Bytes)

namespace FileTree

/-- Whether there are files below a directory. -/
def hasDirectory (t : FileTree) (dir : List String) : Bool :=
  dir = [] || t.files.any fun f => dir.isPrefixOf f.1 && dir ≠ f.1

/-- Whether a name in a path leads nowhere else. -/
def isStationary (name : String) : Bool := name = "" || name = "."

/-- Follows names from a directory on. -/
def follow? (t : FileTree) (dir : List String) : List String → Option Entry
  | [] => some .directory
  | name :: rest =>
    if isStationary name then t.follow? dir rest
    else if name = ".." then
      if dir = [] then
        if rest.all fun n => isStationary n || n = ".." then some .directory else none
      else t.follow? dir.dropLast rest
    else
      let path := dir ++ [name]
      match t.files.lookup path with
      | some content => if rest = [] then some (.file content) else none
      | none => if t.hasDirectory path then t.follow? path rest else none

/-- What a path leads to. -/
def find? (t : FileTree) (path : String) : Option Entry :=
  let names := path.splitOn "/"
  if path.toList.head? = some '/' then
    if names.all fun n => isStationary n || n = ".." then some .directory else none
  else t.follow? [] names

end FileTree

end Turnstile
