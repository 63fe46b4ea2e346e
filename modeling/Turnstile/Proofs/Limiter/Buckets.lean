import Turnstile.Limiter.Buckets

/-!
# What the operations do to each bucket

Every operation on the buckets is described by what `Buckets.find?` shows afterwards: writing a key
changes that key alone, and a sweep removes exactly the buckets last written before its threshold.

## Main definitions

- `Budget.total` — budgets added up

## Main statements

- `Buckets.find?_set`, `Buckets.find?_set_map` — writing a key
- `Buckets.set_of_find?` — writing what is there already
- `Buckets.find?_sweep` — sweeping
-/

namespace Turnstile

namespace Budget

/-- Budgets added up. -/
def total : List Int → Int
  | [] => 0
  | n :: rest => n + total rest

@[simp] theorem total_nil : total [] = 0 := rfl

@[simp] theorem total_cons (n : Int) (rest : List Int) : total (n :: rest) = n + total rest := rfl

theorem least_le_clamp (n : Int) : least ≤ clamp n :=
  Int.le_max_left _ _

/-- Bringing a number into range does not raise it, unless it is below the range. -/
theorem clamp_le {n : Int} (hleast : least ≤ n) : clamp n ≤ n := by
  unfold clamp
  omega

theorem ofSpan_nonneg (span : Span) : 0 ≤ ofSpan span := by
  unfold ofSpan greatest
  omega

theorem ofSpan_pos {span : Span} (hpos : 0 < span) : 0 < ofSpan span := by
  have hspan : (0 : Int) < span := Int.ofNat_lt.2 hpos
  unfold ofSpan greatest
  omega

theorem ofSpan_le (span : Span) : ofSpan span ≤ span :=
  Int.min_le_left _ _

theorem clamp_mono {m n : Int} (h : m ≤ n) : clamp m ≤ clamp n := by
  unfold clamp
  omega

theorem ofSpan_mono {short long : Span} (h : short ≤ long) : ofSpan short ≤ ofSpan long := by
  have hlength : (short : Int) ≤ long := Int.ofNat_le.2 h
  unfold ofSpan
  omega

end Budget

namespace Buckets

variable {bs : Buckets} {key other : String} {b : Bucket}

/-- A key is found with a bucket exactly if they are an entry, as no key has two. -/
theorem find?_eq_some_iff : bs.find? key = some b ↔ (key, b) ∈ bs.entries := by
  rw [find?, List.lookup_eq_some_iff]
  constructor
  · rintro ⟨front, back, hentries, -⟩
    rw [hentries]
    exact List.mem_append_right _ List.mem_cons_self
  · intro hmem
    obtain ⟨front, back, hentries⟩ := List.append_of_mem hmem
    refine ⟨front, back, hentries, ?_⟩
    intro entry hentry
    have hnodup := bs.nodup_keys
    rw [hentries, List.map_append, List.nodup_append] at hnodup
    have hne := hnodup.2.2 entry.1 (List.mem_map_of_mem hentry) key (by simp)
    simpa using Ne.symm hne

/-- A key without a bucket is none of the keys. -/
theorem find?_eq_none_iff : bs.find? key = none ↔ key ∉ bs.keys := by
  rw [find?, List.lookup_eq_none_iff, keys, List.mem_map]
  constructor
  · rintro hnone ⟨entry, hentry, rfl⟩
    simpa using hnone entry hentry
  · intro hnone entry hentry
    rw [bne_iff_ne]
    rintro rfl
    exact hnone ⟨entry, hentry, rfl⟩

theorem lookup_replace_self {entries : List (String × Bucket)} (hmem : key ∈ entries.map (·.1)) :
    (replace key b entries).lookup key = some b := by
  induction entries with
  | nil => cases hmem
  | cons entry rest ih =>
    by_cases hkey : entry.1 = key
    · simp [replace, hkey]
    · have hrest : key ∈ rest.map (·.1) := by
        rw [List.map_cons, List.mem_cons] at hmem
        exact hmem.resolve_left (Ne.symm hkey)
      rw [replace, List.map_cons, if_neg hkey, List.lookup_cons,
        beq_eq_false_iff_ne.2 (Ne.symm hkey)]
      exact ih hrest

theorem lookup_replace_of_ne (hne : other ≠ key) (entries : List (String × Bucket)) :
    (replace key b entries).lookup other = entries.lookup other := by
  induction entries with
  | nil => rfl
  | cons entry rest ih =>
    by_cases hkey : entry.1 = key
    · rw [replace, List.map_cons, if_pos hkey, List.lookup_cons, List.lookup_cons, hkey,
        beq_eq_false_iff_ne.2 hne]
      exact ih
    · rw [replace, List.map_cons, if_neg hkey, List.lookup_cons, List.lookup_cons]
      cases other == entry.1 with
      | true => rfl
      | false => exact ih

/-- Writing a key changes what is found under that key and no other. -/
theorem find?_set (bs : Buckets) (key other : String) (b : Bucket) :
    (bs.set key b).find? other = if other = key then some b else bs.find? other := by
  unfold set find?
  by_cases hmem : key ∈ bs.keys
  · rw [dif_pos hmem]
    by_cases hother : other = key
    · rw [if_pos hother, hother]
      exact lookup_replace_self hmem
    · rw [if_neg hother]
      exact lookup_replace_of_ne hother _
  · have hnew : List.lookup key bs.entries = none := find?_eq_none_iff.2 hmem
    rw [dif_neg hmem, List.lookup_append]
    by_cases hother : other = key
    · simp [hother, hnew]
    · simp [hother, List.lookup_cons, beq_eq_false_iff_ne.2 hother]

/-- Writing a key by what is found under it changes each key by what is found there. -/
theorem find?_set_map (bs : Buckets) (key other : String) (write : Option Bucket → Bucket) :
    (bs.set key (write (bs.find? key))).find? other =
      if other = key then some (write (bs.find? other)) else bs.find? other := by
  rw [find?_set]
  by_cases hother : other = key
  · rw [if_pos hother, if_pos hother, hother]
  · rw [if_neg hother, if_neg hother]

theorem value_set (bs : Buckets) (key : String) (b : Bucket) :
    (bs.set key b).value key = b.value := by
  rw [value, find?_set, if_pos rfl]
  rfl

/-- Writing what is there already changes nothing. -/
theorem set_of_find? (h : bs.find? key = some b) : bs.set key b = bs := by
  have hmem : key ∈ bs.keys :=
    List.mem_map_of_mem (find?_eq_some_iff.1 h)
  unfold set
  rw [dif_pos hmem]
  apply Buckets.ext
  -- the only entry of the key is the one that is written
  have hsame : ∀ entry ∈ bs.entries, (if entry.1 = key then (key, b) else entry) = entry := by
    intro entry hentry
    split
    · next hkey =>
      have hfound : bs.find? entry.1 = some entry.2 := find?_eq_some_iff.2 hentry
      rw [hkey, h] at hfound
      rw [Option.some.inj hfound, ← hkey]
    · rfl
  exact (List.map_congr_left hsame).trans (List.map_id' _)

/-! ### Sweeping -/

theorem find?_erase (bs : Buckets) (key other : String) :
    (bs.erase key).find? other = if other = key then none else bs.find? other := by
  ext b
  rw [find?_eq_some_iff, erase, List.mem_filter]
  by_cases hother : other = key
  · simp [hother]
  · simp [hother, find?_eq_some_iff]

theorem find?_removeIfStale (bs : Buckets) (threshold : Instant) (key other : String) :
    (bs.removeIfStale threshold key).find? other =
      if other = key then (bs.find? other).filter (fun b => threshold ≤ b.lastModified)
      else bs.find? other := by
  unfold removeIfStale lastModified?
  cases hfound : bs.find? key with
  | none =>
    by_cases hother : other = key
    · rw [if_pos hother, hother, hfound]
      simp [hfound]
    · simp [hother]
  | some b =>
    by_cases hstale : b.lastModified < threshold
    · have hkept : ¬threshold ≤ b.lastModified := Int.not_le.2 hstale
      by_cases hother : other = key
      · simp [hother, hfound, hstale, hkept, find?_erase, Option.filter]
      · simp [hother, hstale, find?_erase]
    · have hkept : threshold ≤ b.lastModified := Int.not_lt.1 hstale
      by_cases hother : other = key
      · simp [hother, hfound, hstale, hkept, Option.filter]
      · simp [hother, hstale]

theorem find?_removeStale (bs : Buckets) (threshold : Instant) (keys : List String)
    (other : String) :
    (bs.removeStale threshold keys).find? other =
      if other ∈ keys then (bs.find? other).filter (fun b => threshold ≤ b.lastModified)
      else bs.find? other := by
  unfold removeStale
  induction keys generalizing bs with
  | nil => simp
  | cons key rest ih =>
    rw [List.foldl_cons, ih, find?_removeIfStale]
    by_cases hother : other = key
    · by_cases hrest : other ∈ rest
      · simp [hother, Option.filter_filter]
      · simp [hother]
    · simp [hother]

theorem mem_staleKeys {threshold : Instant} :
    key ∈ bs.staleKeys threshold ↔ ∃ b, bs.find? key = some b ∧ b.lastModified < threshold := by
  simp [staleKeys, find?_eq_some_iff]

/-- A sweep removes exactly the buckets last written before its threshold. -/
theorem find?_sweep (bs : Buckets) (threshold : Instant) (key : String) :
    (bs.sweep threshold).find? key =
      (bs.find? key).filter (fun b => threshold ≤ b.lastModified) := by
  rw [sweep, find?_removeStale]
  split
  · rfl
  · next hfresh =>
    cases hfound : bs.find? key with
    | none => rfl
    | some b =>
      have hkept : threshold ≤ b.lastModified :=
        Int.not_lt.1 fun hstale => hfresh (mem_staleKeys.2 ⟨b, hfound, hstale⟩)
      simp [hkept, Option.filter]

end Buckets

end Turnstile
