import Turnstile.Proofs.Limiter.Check

/-!
# Writes between the two phases of a sweep

A sweep first collects the keys that are stale, and then removes them. Others may write into the
store between the two phases: keys that were collected, keys that were not, and keys that come into
being only then. What was written is not removed, as each key is looked at again before it goes, and
a clock that has not gone back has stamped it behind the threshold.

## Main definitions

- `Store.Write`, `Store.writeAll` — what others may write, and writes one after the other
- `Store.collect`, `Store.discard` — the two phases of a sweep
- `Store.cleanAmid` — a sweep between whose phases others write
- `Buckets.Without` — buckets from which some keys are taken out

## Main statements

- `Store.clean_eq_cleanAmid` — a sweep is its two phases with nothing in between
- `Store.find?_of_writeAll` — what writes do to each key
- `Store.sweep_loses_no_write` — what a sweep removes when others write
-/

namespace Turnstile

/-- Buckets that are those of `all`, but without the keys for which `gone` holds. -/
structure Buckets.Without (all : Buckets) (gone : String → Prop) (left : Buckets) : Prop where
  removed : ∀ key, gone key → left.find? key = none
  kept : ∀ key, ¬gone key → left.find? key = all.find? key

/-- A key whose bucket was last written before a threshold. -/
def Buckets.Stale (bs : Buckets) (threshold : Instant) (key : String) : Prop :=
  ∃ b, bs.find? key = some b ∧ b.lastModified < threshold

namespace Store

/-- What others may write into a store, and when. -/
inductive Write where
  | add (key : String) (amount cap : Int) (now : Instant)
  | charge (key : String) (amount : Int) (now : Instant)
deriving DecidableEq

namespace Write

/-- The key that is written. -/
def key : Write → String
  | .add key _ _ _ => key
  | .charge key _ _ => key

/-- The instant that the clock shows at a write. -/
def now : Write → Instant
  | .add _ _ _ now => now
  | .charge _ _ now => now

/-- Makes a write. -/
def perform (store : Store) : Write → Except Failure Store
  | .add key amount cap now => do return (← store.addCapped key amount cap now).2
  | .charge key amount now => do return (← store.charge key amount now).2

/-- The bucket that a write makes of the one that it finds. -/
def onBucket (bucket : Option Bucket) : Write → Bucket
  | .add _ amount cap now => ⟨(Buckets.capped ((bucket.map (·.value)).getD 0) amount cap).1, now⟩
  | .charge _ amount now => ⟨Budget.clamp ((bucket.map (·.value)).getD 0 - amount), now⟩

end Write

/-- Makes writes one after the other. -/
def writeAll : Store → List Write → Except Failure Store
  | store, [] => .ok store
  | store, w :: rest => do writeAll (← w.perform store) rest

/-- What the writes of one key make of its bucket. -/
def writtenBy (key : String) (writes : List Write) (bucket : Option Bucket) : Option Bucket :=
  (writes.filter fun w => w.key = key).foldl (fun bucket w => some (w.onBucket bucket)) bucket

/-- The first phase of a sweep: its threshold, and the keys that are stale by it. -/
def collect (store : Store) (staleAfter : Span) (now : Instant) :
    Except Failure (Instant × List String) := do
  store.require .clean
  let t ← threshold staleAfter now
  return (t, store.buckets.staleKeys t)

/-- The second phase of a sweep: removes the keys that were collected and are still stale. -/
def discard (store : Store) (threshold : Instant) (keys : List String) : Store :=
  { store with buckets := store.buckets.removeStale threshold keys }

/-- A sweep between whose two phases others write. -/
def cleanAmid (store : Store) (staleAfter : Span) (now : Instant) (writes : List Write) :
    Except Failure Store := do
  let (t, keys) ← store.collect staleAfter now
  return (← store.writeAll writes).discard t keys

variable {store after : Store} {staleAfter : Span} {now threshold : Instant} {key : String}
  {bucket : Option Bucket} {w : Write} {writes : List Write}

/-! ### The two phases -/

theorem clean_eq_cleanAmid (store : Store) (staleAfter : Span) (now : Instant) :
    store.clean staleAfter now = store.cleanAmid staleAfter now [] := by
  unfold clean cleanAmid collect
  cases store.require .clean with
  | error e => rfl
  | ok _ =>
    simp only [bind, Except.bind]
    cases Store.threshold staleAfter now <;> rfl

theorem not_lt_of_le_sub {first last now : Int} {age longest : Nat}
    (hcalendar : last - first ≤ longest) (hnow : now ≤ last) (hage : first ≤ now - age) :
    ¬longest < age := by
  omega

/-- A threshold that the calendar has is never that of an age that is refused. -/
theorem threshold_of_representable (hnow : now ≤ Instant.last)
    (representable : Instant.first ≤ now - (staleAfter : Int)) :
    Store.threshold staleAfter now = .ok (now - (staleAfter : Int)) := by
  have hcalendar : Instant.last - Instant.first ≤ (Span.longest : Int) := by decide
  rw [Store.threshold, if_neg (not_lt_of_le_sub hcalendar hnow representable), readClock_of_le hnow]
  simp only [bind, Except.bind, pure, Except.pure, if_pos representable]

theorem collect_of_sound (sound : store.health = .sound) (hnow : now ≤ Instant.last)
    (representable : Instant.first ≤ now - (staleAfter : Int)) :
    store.collect staleAfter now =
      .ok (now - (staleAfter : Int), store.buckets.staleKeys (now - (staleAfter : Int))) := by
  rw [collect, require_of_works (works_of_sound sound _),
    threshold_of_representable hnow representable]
  rfl

/-! ### Writes -/

theorem lastModified_onBucket (bucket : Option Bucket) (w : Write) :
    (w.onBucket bucket).lastModified = w.now := by
  cases w <;> rfl

theorem exists_perform (sound : store.health = .sound) (hnow : w.now ≤ Instant.last) :
    ∃ after, w.perform store = .ok after ∧ after.health = .sound ∧ ∀ key, after.buckets.find? key =
      if key = w.key then some (w.onBucket
        (store.buckets.find? key)) else store.buckets.find? key := by
  cases w with
  | add key amount cap now =>
    change now ≤ Instant.last at hnow
    rw [Write.perform, addCapped_of_works (works_of_sound sound _) hnow]
    exact ⟨_, rfl, sound, fun other => Buckets.find?_set_map _ _ _ fun bucket =>
      (Write.add key amount cap now).onBucket bucket⟩
  | charge key amount now =>
    change now ≤ Instant.last at hnow
    rw [Write.perform, charge_of_works (works_of_sound sound _) hnow]
    exact ⟨_, rfl, sound, fun other => Buckets.find?_set_map _ _ _ fun bucket =>
      (Write.charge key amount now).onBucket bucket⟩

theorem writtenBy_cons (key : String) (w : Write) (rest : List Write) (bucket : Option Bucket) :
    writtenBy key (w :: rest) bucket =
      writtenBy key rest (if key = w.key then some (w.onBucket bucket) else bucket) := by
  by_cases hkey : key = w.key
  · rw [if_pos hkey, writtenBy, List.filter_cons_of_pos (by simp [hkey])]
    rfl
  · rw [if_neg hkey, writtenBy, List.filter_cons_of_neg (by simp [Ne.symm hkey])]
    rfl

/-- Writes do to each key what the writes of that key do to its bucket. -/
theorem find?_of_writeAll (sound : store.health = .sound)
    (readable : ∀ w ∈ writes, w.now ≤ Instant.last) :
    ∃ after, store.writeAll writes = .ok after ∧
      ∀ key, after.buckets.find? key = writtenBy key writes (store.buckets.find? key) := by
  induction writes generalizing store with
  | nil => exact ⟨store, rfl, fun key => rfl⟩
  | cons w rest ih =>
    obtain ⟨next, hperform, hsound, hfind⟩ := exists_perform sound (readable w List.mem_cons_self)
    obtain ⟨after, hrest, hafter⟩ :=
      ih hsound fun w' hw' => readable w' (List.mem_cons_of_mem _ hw')
    refine ⟨after, ?_, fun key => ?_⟩
    · rw [writeAll, hperform]
      exact hrest
    · rw [hafter, hfind, writtenBy_cons]

theorem writtenBy_of_unwritten (unwritten : ∀ w ∈ writes, w.key ≠ key) (bucket : Option Bucket) :
    writtenBy key writes bucket = bucket := by
  have hnone : writes.filter (fun w => w.key = key) = [] :=
    List.filter_eq_nil_iff.2 fun w hw => by simp [unwritten w hw]
  rw [writtenBy, hnone]
  rfl

/-- Once written by a clock that is not behind a threshold, a bucket stays there and is not
stale. -/
theorem exists_writtenBy (clock : ∀ w ∈ writes, threshold ≤ w.now)
    (fresh : (∃ b, bucket = some b ∧ threshold ≤ b.lastModified) ∨ ∃ w ∈ writes, w.key = key) :
    ∃ b, writtenBy key writes bucket = some b ∧ threshold ≤ b.lastModified := by
  induction writes generalizing bucket with
  | nil => exact fresh.resolve_right nofun
  | cons w rest ih =>
    rw [writtenBy_cons]
    apply ih fun w' hw' => clock w' (List.mem_cons_of_mem _ hw')
    by_cases hkey : key = w.key
    · refine Or.inl ⟨w.onBucket bucket, if_pos hkey, ?_⟩
      rw [lastModified_onBucket]
      exact clock w List.mem_cons_self
    · rw [if_neg hkey]
      refine fresh.imp_right ?_
      rintro ⟨w', hw', hkey'⟩
      rcases List.mem_cons.1 hw' with rfl | hrest
      · exact absurd hkey'.symm hkey
      · exact ⟨w', hrest, hkey'⟩

/-! ### Sweeps -/

/-- The second phase removes the keys that were stale in the first and that nobody has written
since. -/
theorem without_discard (clock : ∀ w ∈ writes, threshold ≤ w.now)
    (written : ∀ key, after.buckets.find? key = writtenBy key writes (store.buckets.find? key)) :
    after.buckets.Without (fun key => store.buckets.Stale threshold key ∧ ∀ w ∈ writes, w.key ≠ key)
      (after.discard threshold (store.buckets.staleKeys threshold)).buckets where
  removed := by
    rintro key ⟨⟨b, hfound, hstale⟩, unwritten⟩
    have hafter : after.buckets.find? key = some b := by
      rw [written, writtenBy_of_unwritten unwritten, hfound]
    rw [discard, Buckets.find?_removeStale,
      if_pos (Buckets.mem_staleKeys.2 ⟨b, hfound, hstale⟩), hafter]
    simp [Option.filter, Int.not_le.2 hstale]
  kept := by
    intro key hkept
    rw [discard, Buckets.find?_removeStale]
    split
    · next hcollected =>
      -- collected, so somebody has written the key, and it is found fresh
      have hwritten : ∃ w ∈ writes, w.key = key := by
        by_contra hnone
        refine hkept ⟨Buckets.mem_staleKeys.1 hcollected, fun w hw hkey => hnone ⟨w, hw, hkey⟩⟩
      obtain ⟨b, hb, hfresh⟩ :
          ∃ b, writtenBy key writes (store.buckets.find? key) = some b ∧
            threshold ≤ b.lastModified :=
        exists_writtenBy clock (Or.inr hwritten)
      rw [written, hb]
      simp [Option.filter, hfresh]
    · rfl

theorem exists_cleanAmid (sound : store.health = .sound) (hnow : now ≤ Instant.last)
    (representable : Instant.first ≤ now - (staleAfter : Int)) (clock : ∀ w ∈ writes, now ≤ w.now)
    (readable : ∀ w ∈ writes, w.now ≤ Instant.last) :
    ∃ alone swept, store.writeAll writes = .ok alone ∧
      store.cleanAmid staleAfter now writes = .ok swept ∧
      (∀ key, alone.buckets.find? key = writtenBy key writes (store.buckets.find? key)) ∧
      alone.buckets.Without
        (fun key => store.buckets.Stale (now - (staleAfter : Int)) key ∧ ∀ w ∈ writes, w.key ≠ key)
        swept.buckets := by
  obtain ⟨alone, halone, hwritten⟩ := find?_of_writeAll sound readable
  have hclock : ∀ w ∈ writes, now - (staleAfter : Int) ≤ w.now := fun w hw =>
    Int.le_trans (Int.sub_le_self _ (Int.natCast_nonneg _)) (clock w hw)
  refine ⟨alone, _, halone, ?_, hwritten, without_discard hclock hwritten⟩
  rw [cleanAmid, collect_of_sound sound hnow representable]
  simp only [bind, Except.bind, halone]
  rfl

/-- **A sweep loses no write.** A sweep of a sound store has a threshold that the calendar has, and
between its two phases others make any writes, on a clock that has not gone back behind the first
phase. What is left is what the writes alone would have left, without the keys that were stale in
the first phase and that nobody has written since. So every key that was written is still there,
with what its writes make of the bucket that it had in the first phase. With no writes in between, a
sweep removes exactly the keys that were last written before the threshold. -/
theorem sweep_loses_no_write (store : Store) (staleAfter : Span) (now : Instant)
    (writes : List Write) (sound : store.health = .sound) (hnow : now ≤ Instant.last)
    (representable : Instant.first ≤ now - (staleAfter : Int)) (clock : ∀ w ∈ writes, now ≤ w.now)
    (readable : ∀ w ∈ writes, w.now ≤ Instant.last) :
    (∃ alone swept, store.writeAll writes = .ok alone ∧
      store.cleanAmid staleAfter now writes = .ok swept ∧
      alone.buckets.Without
        (fun key => store.buckets.Stale (now - (staleAfter : Int)) key ∧ ∀ w ∈ writes, w.key ≠ key)
        swept.buckets ∧
      ∀ w ∈ writes, ∃ b, swept.buckets.find? w.key = some b ∧
        writtenBy w.key writes (store.buckets.find? w.key) = some b) ∧
    ∃ swept, store.clean staleAfter now = .ok swept ∧
      store.buckets.Without (store.buckets.Stale (now - (staleAfter : Int))) swept.buckets := by
  constructor
  · obtain ⟨alone, swept, halone, hswept, hwritten, hwithout⟩ :=
      exists_cleanAmid sound hnow representable clock readable
    refine ⟨alone, swept, halone, hswept, hwithout, fun w hw => ?_⟩
    obtain ⟨b, hb, -⟩ :
        ∃ b, writtenBy w.key writes (store.buckets.find? w.key) = some b ∧ now ≤ b.lastModified :=
      exists_writtenBy clock (Or.inr ⟨w, hw, rfl⟩)
    refine ⟨b, ?_, hb⟩
    rw [hwithout.kept _ fun hgone => hgone.2 w hw rfl, hwritten, hb]
  · have hnone : ∀ w ∈ ([] : List Write), now ≤ w.now := nofun
    obtain ⟨alone, swept, halone, hswept, -, hwithout⟩ :=
      exists_cleanAmid sound hnow representable hnone nofun
    obtain rfl := Except.ok.inj halone
    refine ⟨swept, by rw [clean_eq_cleanAmid, hswept], fun key hstale => ?_, fun key hfresh => ?_⟩
    · exact hwithout.removed key ⟨hstale, nofun⟩
    · exact hwithout.kept key fun hgone => hfresh hgone.1

/-- Three keys, two of which were last written more than ten seconds before the sweep. -/
def lived : Store :=
  ⟨.sound, ((Buckets.empty.set "busy" ⟨-1, 0⟩).set "idle" ⟨-1, 0⟩).set "young"
    ⟨7, 15 * Span.second⟩⟩

def lateWrites : List Write :=
  [.charge "busy" 4 (20 * Span.second), .add "new" 9 5 (21 * Span.second)]

/-- One of the two is charged before it is removed, and a new key comes into being. -/
theorem lived_loses_no_write :
    ∃ swept, lived.cleanAmid (Span.ofSeconds 10) (20 * Span.second) lateWrites = .ok swept ∧
      swept.buckets.find? "idle" = none ∧ swept.buckets.find? "busy" = some ⟨-5, 20 * Span.second⟩ ∧
      swept.buckets.find? "new" = some ⟨5, 21 * Span.second⟩ := by
  obtain ⟨⟨alone, swept, -, hswept, hwithout, hwritten⟩, -⟩ :=
    sweep_loses_no_write lived (Span.ofSeconds 10) (20 * Span.second) lateWrites rfl
      (by decide) (by decide)
      (by decide) (by decide)
  have hidle : lived.buckets.Stale (20 * Span.second - (Span.ofSeconds 10 : Int)) "idle" :=
    ⟨⟨-1, 0⟩, rfl, by decide⟩
  refine ⟨swept, hswept, hwithout.removed _ ⟨hidle, by decide⟩, ?_, ?_⟩
  · obtain ⟨b, hfound, hb⟩ := hwritten (.charge "busy" 4 (20 * Span.second)) (by decide)
    exact hfound.trans (hb.symm.trans rfl)
  · obtain ⟨b, hfound, hb⟩ := hwritten (.add "new" 9 5 (21 * Span.second)) (by decide)
    exact hfound.trans (hb.symm.trans rfl)

end Store

end Turnstile
