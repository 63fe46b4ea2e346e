import Turnstile.Text.Split

/-!
# Cutting and joining

Cutting a text at a separator and joining the segments again changes nothing, and segments in which
the separator does not occur come back as they were joined.

## Main statements

- `Text.join_split` — the segments of a text, joined, are the text
- `Text.split_append` — a segment without the separator is cut off whole
- `Text.split_join` — joined segments are cut apart again
-/

namespace Turnstile.Text

variable {sep : Char}

/-- A text without the separator is one segment. -/
theorem split_of_not_mem {s : List Char} (h : sep ∉ s) : split sep s = [s] := by
  induction s with
  | nil => rfl
  | cons c rest ih =>
    rw [List.mem_cons, not_or] at h
    rw [split, if_neg (Ne.symm h.1), ih h.2]

/-- Up to the first separator a text is one segment. -/
theorem split_append {s : List Char} (h : sep ∉ s) (rest : List Char) :
    split sep (s ++ sep :: rest) = s :: split sep rest := by
  induction s with
  | nil => simp [split]
  | cons c tail ih =>
    rw [List.mem_cons, not_or] at h
    rw [List.cons_append, split, if_neg (Ne.symm h.1), ih h.2]

/-- The segments of a text, joined, are the text. -/
theorem join_split (sep : Char) (s : List Char) : join sep (split sep s) = s := by
  induction s with
  | nil => rfl
  | cons c rest ih =>
    obtain ⟨segment, segments, hsplit⟩ := List.exists_cons_of_ne_nil (split_ne_nil sep rest)
    rw [hsplit] at ih
    by_cases hc : c = sep
    · rw [split, if_pos hc, hsplit, join, ih, hc, List.nil_append]
      exact List.cons_ne_nil _ _
    · rw [split, if_neg hc, hsplit]
      cases segments with
      | nil =>
        simp only [join] at ih ⊢
        rw [ih]
      | cons next others =>
        simp only [join] at ih ⊢
        rw [List.cons_append, ih]

/-- Segments in which the separator does not occur come back as they were joined. -/
theorem split_join {segments : List (List Char)} (hne : segments ≠ [])
    (h : ∀ segment ∈ segments, sep ∉ segment) : split sep (join sep segments) = segments := by
  induction segments with
  | nil => exact absurd rfl hne
  | cons segment rest ih =>
    have hsegment : sep ∉ segment := h segment List.mem_cons_self
    cases rest with
    | nil => exact split_of_not_mem hsegment
    | cons next others =>
      have hrest : ∀ other ∈ next :: others, sep ∉ other := fun other hother =>
        h other (List.mem_cons_of_mem _ hother)
      rw [join, split_append hsegment, ih (List.cons_ne_nil _ _) hrest]
      exact List.cons_ne_nil _ _

/-- Joined segments are cut apart from what follows them too. -/
theorem split_join_append {segments : List (List Char)} (hne : segments ≠ [])
    (h : ∀ segment ∈ segments, sep ∉ segment) (rest : List Char) :
    split sep (join sep segments ++ sep :: rest) = segments ++ split sep rest := by
  induction segments with
  | nil => exact absurd rfl hne
  | cons segment others ih =>
    have hsegment : sep ∉ segment := h segment List.mem_cons_self
    cases others with
    | nil => exact split_append hsegment rest
    | cons next others =>
      have hothers : ∀ other ∈ next :: others, sep ∉ other := fun other hother =>
        h other (List.mem_cons_of_mem _ hother)
      rw [join, List.append_assoc, List.cons_append, split_append hsegment,
        ih (List.cons_ne_nil _ _) hothers]
      · rfl
      · exact List.cons_ne_nil _ _

/-- Joining adds no character but the separator. -/
theorem eq_or_exists_of_mem_join {segments : List (List Char)} {c : Char}
    (h : c ∈ join sep segments) :
    c = sep ∨ ∃ segment ∈ segments, c ∈ segment := by
  induction segments with
  | nil => cases h
  | cons segment rest ih =>
    cases rest with
    | nil => exact Or.inr ⟨segment, List.mem_cons_self, h⟩
    | cons next others =>
      rw [join, List.mem_append, List.mem_cons] at h
      · rcases h with hhere | hsep | hlater
        · exact Or.inr ⟨segment, List.mem_cons_self, hhere⟩
        · exact Or.inl hsep
        · refine (ih hlater).imp_right fun ⟨later, hmem, hc⟩ => ?_
          exact ⟨later, List.mem_cons_of_mem _ hmem, hc⟩
      · exact List.cons_ne_nil _ _

end Turnstile.Text
