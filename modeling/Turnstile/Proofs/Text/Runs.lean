import Turnstile.Text.Blank

/-!
# Runs of characters

Readers take characters off a text as long as these have some property, and blanks are cut off both
ends of it in the same way. What is taken off is just a run of such characters if the text goes on
with another one, or not at all.

## Main definitions

- `Text.Stops` — a text that a run does not go on into

## Main statements

- `Text.takeWhile_run`, `Text.dropWhile_run` — a run and what follows it
- `Text.trim_append` — blanks around a text without blanks
-/

namespace Turnstile.Text

variable {p : Char → Bool} {cs rest : List Char}

/-- A run of characters with a property does not go on into the text. -/
def Stops (p : Char → Bool) (rest : List Char) : Prop :=
  ∀ c ∈ rest.head?, p c = false

theorem stops_nil (p : Char → Bool) : Stops p [] := by
  simp [Stops]

theorem stops_cons {c : Char} : Stops p (c :: rest) ↔ p c = false := by
  simp [Stops]

theorem takeWhile_of_stops (h : Stops p rest) : rest.takeWhile p = [] := by
  cases rest with
  | nil => rfl
  | cons c rest => exact List.takeWhile_cons_of_neg (Bool.eq_false_iff.1 (stops_cons.1 h))

theorem dropWhile_of_stops (h : Stops p rest) : rest.dropWhile p = rest := by
  cases rest with
  | nil => rfl
  | cons c rest => exact List.dropWhile_cons_of_neg (Bool.eq_false_iff.1 (stops_cons.1 h))

theorem takeWhile_run (hrun : ∀ c ∈ cs, p c = true) (hstop : Stops p rest) :
    (cs ++ rest).takeWhile p = cs := by
  rw [List.takeWhile_append_of_pos hrun, takeWhile_of_stops hstop, List.append_nil]

theorem dropWhile_run (hrun : ∀ c ∈ cs, p c = true) (hstop : Stops p rest) :
    (cs ++ rest).dropWhile p = rest := by
  rw [List.dropWhile_append_of_pos hrun, dropWhile_of_stops hstop]

/-- Every text begins with a run that does not go on into the rest. -/
theorem exists_run (p : Char → Bool) (cs : List Char) :
    ∃ run rest, cs = run ++ rest ∧ (∀ c ∈ run, p c = true) ∧ Stops p rest := by
  refine ⟨cs.takeWhile p, cs.dropWhile p, (List.takeWhile_append_dropWhile ..).symm, ?_, ?_⟩
  · exact fun c hc => List.all_eq_true.1 List.all_takeWhile c hc
  · intro c hc
    have hhead := List.head?_dropWhile_not p cs
    rw [Option.mem_def.1 hc] at hhead
    exact hhead

/-! ### Blanks around a text -/

theorem stops_append {cs : List Char} (hne : cs ≠ []) (h : ∀ c ∈ cs, p c = false)
    (rest : List Char) :
    Stops p (cs ++ rest) := by
  obtain ⟨c, tail, rfl⟩ := List.exists_cons_of_ne_nil hne
  exact stops_cons.2 (h c List.mem_cons_self)

/-- Blanks around a text without blanks are cut off, and nothing else is. -/
theorem trim_append {before after : List Char} (hne : cs ≠ [])
    (hinner : ∀ c ∈ cs, isBlank c = false) (hbefore : ∀ c ∈ before, isBlank c = true)
    (hafter : ∀ c ∈ after, isBlank c = true) :
    trim (before ++ (cs ++ after)) = cs := by
  have hstart : trimStart (before ++ (cs ++ after)) = cs ++ after :=
    dropWhile_run hbefore (stops_append hne hinner after)
  have hreverse : Stops isBlank cs.reverse := by
    have hstop := stops_append (List.reverse_ne_nil_iff.2 hne)
      (fun c hc => hinner c (List.mem_reverse.1 hc)) []
    rwa [List.append_nil] at hstop
  rw [trim, hstart, trimEnd, List.reverse_append,
    dropWhile_run (fun c hc => hafter c (List.mem_reverse.1 hc)) hreverse, List.reverse_reverse]

end Turnstile.Text
