/-!
# Segments

Cutting a text at every occurrence of one character, and joining segments again.

## Main definitions

- `Text.split` — the segments between occurrences of a separator, at least one
- `Text.join` — segments with a separator between them
-/

namespace Turnstile.Text

/-- The segments between the occurrences of `sep`; a text without one is a single segment. -/
def split (sep : Char) : List Char → List (List Char)
  | [] => [[]]
  | c :: rest =>
    if c = sep then [] :: split sep rest
    else
      match split sep rest with
      | [] => [[c]]
      | segment :: segments => (c :: segment) :: segments

/-- Segments with `sep` between them. -/
def join (sep : Char) : List (List Char) → List Char
  | [] => []
  | [segment] => segment
  | segment :: segments => segment ++ sep :: join sep segments

/-- There is always a first segment. -/
theorem split_ne_nil (sep : Char) (s : List Char) : split sep s ≠ [] := by
  cases s with
  | nil => simp [split]
  | cons c rest =>
    unfold split
    repeat' split
    all_goals simp

end Turnstile.Text
