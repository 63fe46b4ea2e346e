import Turnstile.Calendar.Instant

/-!
# Buckets

Every subject of the rate limiter has a bucket: a budget of nanoseconds, negative while the subject
is in debt, and the instant it was last written. Budgets are held in 64 bits and saturate at both
ends. A subject without a bucket reads as a budget of zero.

A sweep removes old buckets in two steps. The keys to remove are collected first, and each of them
is looked at again before it goes, so that a key written in between survives.

## Main definitions

- `Budget.clamp` — a number brought into 64 bits
- `Bucket`, `Buckets` — one bucket, and the buckets by key
- `Buckets.find?` — the view through which all operations are described
- `Buckets.addCapped`, `Buckets.charge` — writing a bucket
- `Buckets.staleKeys`, `Buckets.removeStale` — the two steps of a sweep
-/

namespace Turnstile

namespace Budget

/-- The least budget that 64 bits hold. -/
def least : Int := -9223372036854775808

/-- The greatest budget that 64 bits hold. -/
def greatest : Int := 9223372036854775807

/-- A number brought into the range of budgets. -/
def clamp (n : Int) : Int :=
  max least (min n greatest)

/-- A length of time as a budget. -/
def ofSpan (span : Span) : Int :=
  min (span : Int) greatest

end Budget

/-- The budget of one subject and when it was last written. -/
structure Bucket where
  value : Int
  lastModified : Instant
deriving DecidableEq, Repr

/-- The buckets by key, in the order in which they came into being. -/
@[ext] structure Buckets where
  entries : List (String × Bucket)
  nodup_keys : (entries.map (·.1)).Nodup

namespace Buckets

/-- No buckets. -/
def empty : Buckets := ⟨[], List.nodup_nil⟩

/-- The keys that have a bucket. -/
def keys (bs : Buckets) : List String :=
  bs.entries.map (·.1)

/-- The number of buckets. -/
def size (bs : Buckets) : Nat :=
  bs.entries.length

/-- The bucket of a key. -/
def find? (bs : Buckets) (key : String) : Option Bucket :=
  bs.entries.lookup key

/-- Replaces the bucket of a key in its place. -/
def replace (key : String) (b : Bucket) (entries : List (String × Bucket)) :
    List (String × Bucket) :=
  entries.map fun e => if e.1 = key then (key, b) else e

theorem keys_replace (key : String) (b : Bucket) (entries : List (String × Bucket)) :
    (replace key b entries).map (·.1) = entries.map (·.1) := by
  induction entries with
  | nil => rfl
  | cons e rest ih =>
    by_cases h : e.1 = key
    · simp_all [replace]
    · simp_all [replace]

/-- Writes the bucket of a key, which comes into being at the end if there is none. -/
def set (bs : Buckets) (key : String) (b : Bucket) : Buckets :=
  if h : key ∈ bs.keys then
    ⟨replace key b bs.entries, by rw [keys_replace]; exact bs.nodup_keys⟩
  else
    ⟨bs.entries ++ [(key, b)], by
      have := bs.nodup_keys
      simp only [List.map_append, List.map_cons, List.map_nil]
      refine List.nodup_append.2 ⟨this, by simp, ?_⟩
      intro a ha b' hb'
      rw [List.mem_singleton] at hb'
      subst hb'
      exact fun e => h (e ▸ ha)⟩

/-- Removes the bucket of a key. -/
def erase (bs : Buckets) (key : String) : Buckets :=
  ⟨bs.entries.filter fun e => e.1 ≠ key,
    (bs.entries.filter_sublist.map (·.1)).nodup bs.nodup_keys⟩

/-- The budget of a key. -/
def value (bs : Buckets) (key : String) : Int :=
  ((bs.find? key).map (·.value)).getD 0

/-- When the bucket of a key was last written. -/
def lastModified? (bs : Buckets) (key : String) : Option Instant :=
  (bs.find? key).map (·.lastModified)

/-- A budget after adding `amount`, not above `cap`, and whether the cap was met. -/
def capped (current amount cap : Int) : Int × Bool :=
  let next := Budget.clamp (current + amount)
  if next > cap then (cap, true) else (next, false)

/-- Adds to the budget of a key, up to a cap. -/
def addCapped (bs : Buckets) (key : String) (amount cap : Int) (now : Instant) :
    (Int × Bool) × Buckets :=
  let next := capped (bs.value key) amount cap
  (next, bs.set key ⟨next.1, now⟩)

/-- Takes from the budget of a key, which may go into debt. -/
def charge (bs : Buckets) (key : String) (amount : Int) (now : Instant) : Int × Buckets :=
  let next := Budget.clamp (bs.value key - amount)
  (next, bs.set key ⟨next, now⟩)

/-- The keys last written before a threshold. -/
def staleKeys (bs : Buckets) (threshold : Instant) : List String :=
  (bs.entries.filter fun e => e.2.lastModified < threshold).map (·.1)

/-- Removes the bucket of a key if it was last written before a threshold. -/
def removeIfStale (bs : Buckets) (threshold : Instant) (key : String) : Buckets :=
  match bs.lastModified? key with
  | some t => if t < threshold then bs.erase key else bs
  | none => bs

/-- Removes those of the given keys that were last written before a threshold. -/
def removeStale (bs : Buckets) (threshold : Instant) (keys : List String) : Buckets :=
  keys.foldl (fun bs key => bs.removeIfStale threshold key) bs

/-- Removes every bucket last written before a threshold. -/
def sweep (bs : Buckets) (threshold : Instant) : Buckets :=
  bs.removeStale threshold (bs.staleKeys threshold)

end Buckets

end Turnstile
