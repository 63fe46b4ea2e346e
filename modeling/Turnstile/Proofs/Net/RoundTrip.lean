import Mathlib.Data.List.Basic
import Turnstile.Proofs.Net.Address
import Turnstile.Proofs.Text.Digits
import Turnstile.Proofs.Text.Runs

/-!
# Addresses read back from their text

The canonical text of an address is read as that address: byte for byte in version 4, and in version
6 group for group, with the run of zeros that was left out filled in again, and with the version 4
address that a mapped one shows. So different addresses have different texts.

## Main definitions

- `AddressV6.StopsGroup`, `AddressV6.Ends` — what may follow a group, and a row of them

## Main statements

- `AddressV4.readFront?_chars`, `AddressV6.readFront?_chars` — an address is read from its text
- `Address.read?_render` — reading the text of an address
- `Address.render_injective` — different addresses have different texts
-/

namespace Turnstile

open Text (Stops stops_nil stops_cons)

/-! ### Version 4 -/

namespace AddressV4

/-- The digits of a byte are three at most, and a zero is first only where it is alone. -/
theorem digits_of_byte (b : UInt8) :
    ¬(Nat.toDigits 10 b.toNat = [] ∨ (Nat.toDigits 10 b.toNat).length > 3 ∨ b.toNat > 255 ∨
      ((Nat.toDigits 10 b.toNat).length > 1 ∧ (Nat.toDigits 10 b.toNat).head? = some '0')) := by
  have hlt := b.toNat_lt
  have hlength : (Nat.toDigits 10 b.toNat).length ≤ 3 :=
    (Nat.length_toDigits_le_iff (by decide) (by decide)).2 (by omega)
  rintro (hnil | hlong | hlarge | ⟨hmany, hzero⟩)
  · exact List.ne_nil_of_length_pos (Text.length_toDigits_pos _) hnil
  · exact Nat.not_lt.2 hlength hlong
  · omega
  · rcases Nat.eq_zero_or_pos b.toNat with hb | hb
    · rw [hb] at hmany
      exact absurd hmany (by decide)
    · exact Text.head?_toDigits_ne_zero hb hzero

theorem readByte?_toDigits (b : UInt8) {rest : List Char} (hstop : Stops Char.isDigit rest) :
    readByte? (Nat.toDigits 10 b.toNat ++ rest) = some (b, rest) := by
  have hrun : ∀ c ∈ Nat.toDigits 10 b.toNat, c.isDigit = true := fun c hc =>
    Nat.isDigit_of_mem_toDigits (by decide) (by decide) hc
  have hvalue : Text.digitsValue (Nat.toDigits 10 b.toNat) = b.toNat := Text.digitsValue_toDigits _
  simp only [readByte?]
  rw [Text.takeWhile_run hrun hstop, Text.dropWhile_run hrun hstop, hvalue,
    if_neg (digits_of_byte b), UInt8.ofNat_toNat]

theorem readFront?_chars (x : AddressV4) {rest : List Char} (hstop : Stops Char.isDigit rest) :
    readFront? (x.chars ++ rest) = some (x, rest) := by
  have hpoint : ∀ cs, Stops Char.isDigit ('.' :: cs) := fun cs => stops_cons.2 rfl
  simp only [readFront?, chars, List.append_assoc, List.cons_append]
  simp [readByte?_toDigits _ (hpoint _), readPointByte?, readByte?_toDigits _ hstop]

theorem readFront?_of_stops {cs : List Char} (h : Stops Char.isDigit cs) :
    readFront? cs = none := by
  simp [readFront?, readByte?, Text.takeWhile_of_stops h]

theorem readFront?_of_not_mem {cs : List Char} (h : '.' ∉ cs) : readFront? cs = none := by
  unfold readFront?
  cases hbyte : readByte? cs with
  | none => rfl
  | some front =>
    obtain ⟨a, rest⟩ := front
    have hrest : rest <:+ cs := by
      simp only [readByte?] at hbyte
      split at hbyte
      · cases hbyte
      · cases hbyte
        exact List.dropWhile_suffix _
    have hnext : readPointByte? rest = none := by
      unfold readPointByte?
      split
      · exact absurd (hrest.mem List.mem_cons_self) h
      · rfl
    simp [hnext]

end AddressV4

/-! ### Groups -/

namespace AddressV6

variable {g : UInt16} {groups front back : List UInt16} {rest : List Char}

/-- The digits of a group do not go on into the text. -/
abbrev StopsGroup (rest : List Char) : Prop :=
  Stops (fun c => (Bytes.hexValue? c).isSome) rest

theorem hexValue?_digitChar {d : Nat} (h : d < 16) :
    Bytes.hexValue? (Nat.digitChar d) = some d := by
  have table : ∀ d < 16, Bytes.hexValue? (Nat.digitChar d) = some d := by decide
  exact table d h

theorem hexValue_toDigits (n : Nat) : hexValue (Nat.toDigits 16 n) = n := by
  induction n using Nat.strongRecOn with
  | ind n ih =>
    rw [Nat.toDigits_eq_if (by decide)]
    split
    · next hlt => simp [hexValue, hexValue?_digitChar hlt]
    · next hle =>
      have hfront := ih (n / 16) (by omega)
      rw [hexValue] at hfront
      rw [hexValue, List.foldl_append, hfront, List.foldl_cons, List.foldl_nil,
        hexValue?_digitChar (Nat.mod_lt _ (by decide)), Option.getD_some]
      omega

theorem isSome_of_mem_groupChars {c : Char} (h : c ∈ groupChars g) :
    (Bytes.hexValue? c).isSome = true := by
  obtain ⟨d, hd, rfl⟩ := exists_digit_of_mem_toDigits (by decide) h
  rw [hexValue?_digitChar hd, Option.isSome_some]

theorem groupChars_ne_nil (g : UInt16) : groupChars g ≠ [] := by
  rw [groupChars, Nat.toDigits_eq_if (by decide)]
  split <;> simp

theorem length_groupChars_le (g : UInt16) : (groupChars g).length ≤ 4 :=
  (Nat.length_toDigits_le_iff (by decide) (by decide)).2 g.toNat_lt

theorem readGroup?_groupChars (g : UInt16) (hstop : StopsGroup rest) :
    readGroup? (groupChars g ++ rest) = some (g, rest) := by
  have hfits : ¬(groupChars g = [] ∨ (groupChars g).length > 4) :=
    not_or.2 ⟨groupChars_ne_nil g, Nat.not_lt.2 (length_groupChars_le g)⟩
  have hvalue : hexValue (groupChars g) = g.toNat := hexValue_toDigits _
  simp only [readGroup?]
  rw [Text.takeWhile_run (fun c => isSome_of_mem_groupChars) hstop, if_neg hfits, hvalue,
    UInt16.ofNat_toNat, List.drop_left]

theorem readGroup?_of_stops (h : StopsGroup rest) : readGroup? rest = none := by
  simp [readGroup?, Text.takeWhile_of_stops h]

/-- Decimal digits are hexadecimal ones. -/
theorem stops_isDigit (h : StopsGroup rest) : Stops Char.isDigit rest := by
  intro c hc
  by_contra hdigit
  have hbounds : '0' ≤ c ∧ c ≤ '9' := by simpa [Char.isDigit, Char.le_def] using hdigit
  have hsome : (Bytes.hexValue? c).isSome = true := by
    rw [Bytes.hexValue?, if_pos hbounds, Option.isSome_some]
  exact Bool.false_ne_true ((h c hc).symm.trans hsome)

/-! ### Rows of groups -/

/-- Groups with a colon before each. -/
def colonGroups (groups : List UInt16) : List Char :=
  groups.flatMap fun g => ':' :: groupChars g

theorem joinGroups_cons (g : UInt16) (groups : List UInt16) :
    joinGroups (g :: groups) = groupChars g ++ colonGroups groups := by
  induction groups generalizing g with
  | nil => simp [joinGroups, colonGroups]
  | cons next groups ih =>
    rw [joinGroups, ih next]
    · simp [colonGroups]
    · exact List.cons_ne_nil _ _

/-- What may follow groups: nothing, or the colons that stand for zeros. -/
def Ends (rest : List Char) : Prop :=
  rest = [] ∨ ∃ more, rest = ':' :: ':' :: more

theorem ends_nil : Ends [] :=
  Or.inl rfl

theorem ends_colons (more : List Char) : Ends (':' :: ':' :: more) :=
  Or.inr ⟨more, rfl⟩

theorem stopsGroup_of_ends (h : Ends rest) : StopsGroup rest := by
  obtain rfl | ⟨more, rfl⟩ := h
  · exact stops_nil _
  · exact stops_cons.2 rfl

theorem stopsGroup_colonGroups (groups : List UInt16) (h : Ends rest) :
    StopsGroup (colonGroups groups ++ rest) := by
  cases groups with
  | nil => exact stopsGroup_of_ends h
  | cons g groups => exact stops_cons.2 rfl

/-- Where neither a group nor an address of version 4 begins, the reader stops. -/
theorem readGroups_of_stops {first : Bool} {cs : List Char} (limit : Nat)
    (h : ∀ next, skipColon? first cs = some next → StopsGroup next) :
    readGroups limit first cs = ([], false, cs) := by
  cases limit with
  | zero => rfl
  | succ room =>
    have hpoint : (skipColon? first cs).bind AddressV4.readFront? = none :=
      Option.bind_eq_none_iff.2 fun next hnext => AddressV4.readFront?_of_stops
        (stops_isDigit (h next hnext))
    have hgroup : (skipColon? first cs).bind readGroup? = none :=
      Option.bind_eq_none_iff.2 fun next hnext => readGroup?_of_stops (h next hnext)
    simp only [readGroups, hpoint, hgroup, ite_self]

theorem readGroups_ends (first : Bool) (limit : Nat) (h : Ends rest) :
    readGroups limit first rest = ([], false, rest) := by
  refine readGroups_of_stops limit fun next hnext => ?_
  obtain rfl | ⟨more, rfl⟩ := h
  · cases first with
    | true => exact Option.some.inj hnext ▸ stops_nil _
    | false => cases hnext
  · cases first with
    | true => exact Option.some.inj hnext ▸ stops_cons.2 rfl
    | false => exact Option.some.inj hnext ▸ stops_cons.2 rfl

/-- One group is read, and then what is behind it. -/
theorem readGroups_group {first : Bool} {cs : List Char} (room : Nat)
    (hcolon : skipColon? first cs = some (groupChars g ++ rest))
    (hpoint : AddressV4.readFront? (groupChars g ++ rest) = none) (hstop : StopsGroup rest) :
    readGroups (room + 1) first cs =
      (g :: (readGroups room false rest).1, (readGroups room false rest).2) := by
  have hembedded :
      (if room = 0 then none else (skipColon? first cs).bind AddressV4.readFront?) = none := by
    rw [hcolon, Option.bind_some, hpoint, ite_self]
  rw [readGroups, hembedded]
  simp only [hcolon, Option.bind_some, readGroup?_groupChars g hstop]

/-- Groups behind colons are read, one after the other. -/
theorem readGroups_colonGroups {limit : Nat} (hroom : groups.length ≤ limit) (hends : Ends rest)
    (hpoint : '.' ∉ colonGroups groups ++ rest) :
    readGroups limit false (colonGroups groups ++ rest) = (groups, false, rest) := by
  -- on the groups, each of which takes up one place of the room that is left
  induction groups generalizing limit with
  | nil => exact readGroups_ends false limit hends
  | cons g groups ih =>
    have htext : colonGroups (g :: groups) ++ rest = ':' ::
        (groupChars g ++ (colonGroups groups ++ rest)) := by
      simp [colonGroups]
    rw [htext] at hpoint ⊢
    have hnext : '.' ∉ groupChars g ++ (colonGroups groups ++ rest) := fun h =>
      hpoint (List.mem_cons_of_mem _ h)
    have hlater : '.' ∉ colonGroups groups ++ rest := fun h => hnext (List.mem_append_right _ h)
    cases limit with
    | zero => exact absurd hroom (Nat.not_succ_le_zero _)
    | succ room =>
      rw [readGroups_group room rfl (AddressV4.readFront?_of_not_mem hnext)
        (stopsGroup_colonGroups groups hends), ih (Nat.le_of_succ_le_succ hroom) hlater]

theorem readGroups_joinGroups {limit : Nat} (hroom : groups.length ≤ limit) (hends : Ends rest)
    (hpoint : '.' ∉ joinGroups groups ++ rest) :
    readGroups limit true (joinGroups groups ++ rest) = (groups, false, rest) := by
  cases groups with
  | nil => exact readGroups_ends true limit hends
  | cons g groups =>
    rw [joinGroups_cons, List.append_assoc] at hpoint ⊢
    have hlater : '.' ∉ colonGroups groups ++ rest := fun h => hpoint (List.mem_append_right _ h)
    cases limit with
    | zero => exact absurd hroom (Nat.not_succ_le_zero _)
    | succ room =>
      rw [readGroups_group room rfl (AddressV4.readFront?_of_not_mem hpoint)
        (stopsGroup_colonGroups groups hends),
        readGroups_colonGroups (Nat.le_of_succ_le_succ hroom) hends hlater]

/-! ### The zeros that are left out -/

/-- A run that starts at a place is as long as counted. -/
theorem drop_eq_of_zeroRuns (groups : List UInt16) (place : Nat) :
    groups.drop place = List.replicate ((zeroRuns groups)[place]?.getD 0) 0 ++
      groups.drop (place + (zeroRuns groups)[place]?.getD 0) := by
  induction groups generalizing place with
  | nil => simp [zeroRuns]
  | cons g groups ih =>
    cases place with
    | succ place =>
      rw [zeroRuns, List.getElem?_cons_succ, List.drop_succ_cons, Nat.add_right_comm,
        List.drop_succ_cons]
      exact ih place
    | zero =>
      have hrun := ih 0
      rw [List.drop_zero, Nat.zero_add] at hrun
      have hcount : (zeroRuns (g :: groups))[0]?.getD 0 =
          if g = 0 then (zeroRuns groups)[0]?.getD 0 + 1 else 0 := by
        rw [zeroRuns, List.getElem?_cons_zero, Option.getD_some, List.headD_eq_head?_getD,
          List.head?_eq_getElem?]
      rw [hcount, Nat.zero_add, List.drop_zero]
      split
      · next hzero => rw [hzero, List.replicate_succ, List.cons_append, List.drop_succ_cons, ← hrun]
      · rfl

theorem zeroRuns_longestRun (groups : List UInt16) :
    (zeroRuns groups)[(longestRun groups).1]?.getD 0 = (longestRun groups).2 := by
  have hmost : (longestRun groups).2 = (zeroRuns groups).max?.getD 0 := by
    rw [longestRun, List.foldl_max, Nat.zero_max]
  have hplace : (longestRun groups).1 = (zeroRuns groups).idxOf (longestRun groups).2 := rfl
  cases hmax : (zeroRuns groups).max? with
  | none =>
    have hnil : zeroRuns groups = [] := List.max?_eq_none_iff.1 hmax
    rw [hmost, hmax, hnil]
    rfl
  | some most =>
    rw [hmax, Option.getD_some] at hmost
    rw [hplace, hmost, List.getElem?_idxOf (List.max?_mem hmax), Option.getD_some]

/-- Around its longest run of zeros a row of groups stays as it is. -/
theorem eq_of_longestRun (groups : List UInt16) :
    groups = groups.take (longestRun groups).1 ++ (List.replicate (longestRun groups).2 0 ++
      groups.drop ((longestRun groups).1 + (longestRun groups).2)) := by
  have hrun := drop_eq_of_zeroRuns groups (longestRun groups).1
  rw [zeroRuns_longestRun] at hrun
  rw [← hrun, List.take_append_drop]

/-! ### Whole addresses -/

theorem ofGroups?_groups (x : AddressV6) : ofGroups? x.groups = some x := by
  rw [ofGroups?, dif_pos x.length_groups]

theorem point_not_mem_groupChars (g : UInt16) : '.' ∉ groupChars g := by
  intro h
  exact absurd (isSome_of_mem_groupChars h) (by decide)

theorem point_not_mem_joinGroups (groups : List UInt16) : '.' ∉ joinGroups groups := by
  intro h
  fun_induction joinGroups groups with
  | case1 => cases h
  | case2 g => exact point_not_mem_groupChars g h
  | case3 g rest hrest ih =>
    rcases List.mem_append.1 h with h | h
    · exact point_not_mem_groupChars g h
    · exact ih ((List.mem_cons.1 h).resolve_left (by decide))

theorem readGroups_all {limit : Nat} (hroom : groups.length ≤ limit) :
    readGroups limit true (joinGroups groups) = (groups, false, []) := by
  have hpoint : '.' ∉ joinGroups groups ++ [] := by
    rw [List.append_nil]
    exact point_not_mem_joinGroups groups
  have hread := readGroups_joinGroups hroom ends_nil hpoint
  rwa [List.append_nil] at hread

theorem readFront?_joinGroups (x : AddressV6) :
    readFront? (joinGroups x.groups) = some (x, []) := by
  have hread : readGroups 8 true (joinGroups x.groups) = (x.groups, false, []) :=
    readGroups_all (Nat.le_of_eq x.length_groups)
  simp [readFront?, hread, x.length_groups, ofGroups?_groups]

/-- What is missing between two rows of groups is read as zeros. -/
theorem readFront?_colons (x : AddressV6) {count : Nat} (hcount : 0 < count)
    (h : x.groups = front ++ (List.replicate count 0 ++ back)) :
    readFront? (joinGroups front ++ ':' :: ':' :: joinGroups back) = some (x, []) := by
  have hlength : front.length + (count + back.length) = 8 := by
    have hgroups := x.length_groups
    rw [h] at hgroups
    simpa using hgroups
  have hpoint : '.' ∉ joinGroups front ++ ':' :: ':' :: joinGroups back := by
    simp [point_not_mem_joinGroups]
  have hfront : readGroups 8 true (joinGroups front ++ ':' :: ':' :: joinGroups back) =
      (front, false, ':' :: ':' :: joinGroups back) :=
    readGroups_joinGroups (by omega) (ends_colons _) hpoint
  have hback : readGroups (7 - front.length) true (joinGroups back) = (back, false, []) :=
    readGroups_all (by omega)
  have hzeros : 8 - front.length - back.length = count := by omega
  have hshort : front.length ≠ 8 := by omega
  simp [readFront?, hfront, hback, hzeros, hshort, ← h, ofGroups?_groups]

/-- A mapped address has five zeros, a group of ones, and then an address of version 4. -/
theorem groups_of_mapped? {x : AddressV6} {y : AddressV4} (h : x.mapped? = some y) :
    x.groups = 0 :: 0 :: 0 :: 0 :: 0 :: 0xFFFF :: y.groups := by
  have hgroup : ∀ g : UInt16, UInt16.ofNat ((UInt8.ofNat (g.toNat / 256)).toNat * 256 +
      (UInt8.ofNat (g.toNat % 256)).toNat) = g := by
    intro g
    have hlt := g.toNat_lt
    rw [Bytes.toNat_byte (by omega), Bytes.toNat_byte (by omega), Nat.div_add_mod',
      UInt16.ofNat_toNat]
  unfold mapped? at h
  split at h
  · next high low hgroups =>
    obtain rfl := Option.some.inj h
    rw [hgroups, AddressV4.groups, hgroup high, hgroup low]
  · cases h

/-- The text of a mapped address ends in that of an address of version 4, which is read as two
groups. -/
theorem readFront?_mapped {x : AddressV6} {y : AddressV4} (h : x.mapped? = some y) :
    readFront? ("::ffff:".toList ++ y.chars) = some (x, []) := by
  have hpoint : AddressV4.readFront? (groupChars 0xFFFF ++ ':' :: y.chars) = none :=
    AddressV4.readFront?_of_stops (stops_cons.2 rfl)
  have hlast : readGroups 6 false (':' :: y.chars) = (y.groups, true, []) := by
    have hread := y.readFront?_chars (stops_nil Char.isDigit)
    rw [List.append_nil] at hread
    simp [readGroups, skipColon?, hread]
  have hback : readGroups 7 true (groupChars 0xFFFF ++ ':' :: y.chars) =
      (0xFFFF :: y.groups, true, []) := by
    rw [readGroups_group 6 rfl hpoint (stops_cons.2 rfl), hlast]
  have htext : "::ffff:".toList ++ y.chars = ':' :: ':' ::
      (groupChars 0xFFFF ++ ':' :: y.chars) := rfl
  have hfront := readGroups_ends true 8 (ends_colons (groupChars 0xFFFF ++ ':' :: y.chars))
  have hzeros : 8 - (y.groups.length + 1) = 5 := rfl
  rw [htext]
  simp [readFront?, hfront, hback, hzeros, ← groups_of_mapped? h, ofGroups?_groups]

theorem readFront?_chars (x : AddressV6) : readFront? x.chars = some (x, []) := by
  unfold chars
  split
  · next y hmapped => exact readFront?_mapped hmapped
  · dsimp only
    split
    · next hmany => exact readFront?_colons x (by omega) (eq_of_longestRun x.groups)
    · exact readFront?_joinGroups x

/-- No address of version 4 is read from the text of one of version 6, not even from that of a
mapped one. -/
theorem readFront?_v4_chars (x : AddressV6) : AddressV4.readFront? x.chars = none := by
  unfold chars
  split
  · exact AddressV4.readFront?_of_stops (stops_cons.2 rfl)
  · refine AddressV4.readFront?_of_not_mem ?_
    dsimp only
    split
    · simp [point_not_mem_joinGroups]
    · exact point_not_mem_joinGroups x.groups

end AddressV6

/-! ### Both versions -/

namespace Address

theorem readChars?_chars (x : Address) : readChars? x.chars = some x := by
  cases x with
  | v4 x =>
    have hread := x.readFront?_chars (stops_nil Char.isDigit)
    rw [List.append_nil] at hread
    simp [readChars?, chars, hread]
  | v6 x => simp [readChars?, chars, x.readFront?_v4_chars, x.readFront?_chars]

theorem read?_render (x : Address) : read? x.render = some x := by
  rw [read?, render, String.toList_ofList, readChars?_chars]

/-- Other spellings come to the same text. -/
example : (read? "::FFFF:0102:0304").map render = some "::ffff:1.2.3.4" := by decide

theorem render_injective : Function.Injective render := by
  intro x y h
  have hread := congrArg read? h
  rwa [read?_render, read?_render, Option.some_inj] at hread

end Address

end Turnstile
