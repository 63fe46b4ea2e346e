import Turnstile.Calendar.Stamp
import Turnstile.Proofs.Calendar.Date
import Turnstile.Proofs.Text.Digits

/-!
# Timestamps read back

The reader is free in what it accepts, and what is written in the strict form reads back as it was:
each field ends where the next mark begins, years of more than four digits have their sign, and a
fraction has as many digits as it needs. So the instant of a timestamp that was written comes back
to the nanosecond.

## Main statements

- `Stamp.readYear?_renderYear`, `Stamp.readFraction?_renderFraction` — the fields of variable width
- `Stamp.read?_render` — timestamps of the calendar read back
- `Stamp.age_ofInstant` — the age of a timestamp
-/

namespace Turnstile.Stamp

/-! ### Fields -/

/-- Digits are read up to the first character that is none. -/
theorem readDigits?_append {digits : List Char} {mark : Char} {most : Nat}
    (hdigits : ∀ c ∈ digits, c.isDigit = true) (hne : digits ≠ []) (hmost : digits.length ≤ most)
    (hmark : mark.isDigit = false) (rest : List Char) :
    readDigits? most (digits ++ mark :: rest) = some (Text.digitsValue digits, mark :: rest) := by
  have htaken : (digits ++ mark :: rest).takeWhile Char.isDigit = digits := by
    rw [List.takeWhile_append_of_pos hdigits, List.takeWhile_cons_of_neg (by simp [hmark]),
      List.append_nil]
  rw [readDigits?, htaken, List.take_of_length_le hmost]
  simp [hne]

theorem readDigits?_padded {width n most : Nat} {mark : Char}
    (hmost : (Text.padded width n).length ≤ most) (hmark : mark.isDigit = false)
    (rest : List Char) :
    readDigits? most (Text.padded width n ++ mark :: rest) = some (n, mark :: rest) := by
  rw [readDigits?_append (fun c => Text.isDigit_of_mem_padded)
    (Text.padded_ne_nil width n) hmost hmark, Text.digitsValue_padded]

theorem readField?_padded {n : Nat} {mark : Char} (hn : n < 100) (hmark : mark.isDigit = false)
    (rest : List Char) : readField? (Text.padded 2 n ++ mark :: rest) = some (n, mark :: rest) := by
  rw [readField?, Text.trimStart_padded_append,
    readDigits?_padded (Nat.le_of_eq (Text.length_padded (by decide) hn)) hmark]

theorem skip?_cons {mark : Char} (hmark : Text.isBlank mark = false) (rest : List Char) :
    skip? mark (mark :: rest) = some rest := by
  rw [skip?, Text.trimStart_cons hmark]
  exact if_pos rfl

/-- A number behind a sign has as many digits as there are. -/
theorem readDigits?_signed (width n : Nat) (rest : List Char) :
    readDigits? (Text.padded width n ++ '-' :: rest).length (Text.padded width n ++ '-' :: rest) =
      some (n, '-' :: rest) := by
  refine readDigits?_padded ?_ (by decide) rest
  rw [List.length_append]
  omega

/-- Years read back, with and without a sign. -/
theorem readYear?_renderYear (year : Int) (rest : List Char) :
    readYear? (renderYear year ++ '-' :: rest) = some (year, '-' :: rest) := by
  unfold renderYear
  split
  · next hplain =>
    have hwidth : (Text.padded 4 year.toNat).length ≤ 4 :=
      Nat.le_of_eq (Text.length_padded (by decide) (by omega))
    have hyear : (year.toNat : Int) = year := Int.toNat_of_nonneg hplain.1
    have hhyphen : '-'.isDigit = false := by decide
    have hread := readDigits?_padded hwidth hhyphen rest
    -- the first character is a digit, and so no sign
    obtain ⟨c, cs, hcs, hdigit⟩ := Text.exists_padded_cons 4 year.toNat
    rw [readYear?, Text.trimStart_padded_append]
    rw [hcs] at hread ⊢
    split
    · next h =>
      obtain ⟨rfl, -⟩ := List.cons.inj h
      cases hdigit
    · next h =>
      obtain ⟨rfl, -⟩ := List.cons.inj h
      cases hdigit
    · simp only [hread, Option.map_some, hyear]
  split
  · have hyear : -(year.natAbs : Int) = year := by omega
    rw [List.cons_append, readYear?, Text.trimStart_cons (by decide)]
    simp only [readDigits?_signed, Option.map_some, hyear]
  · have hyear : (year.natAbs : Int) = year := by omega
    rw [List.cons_append, readYear?, Text.trimStart_cons (by decide)]
    simp only [readDigits?_signed, Option.map_some, hyear]

/-- The digits of a fraction count by their place. -/
theorem readFraction?_padded {width n : Nat} (hwidth : 0 < width) (hmost : width ≤ 9)
    (hn : n < 10 ^ width) {mark : Char} (hmark : mark.isDigit = false) (rest : List Char) :
    readFraction? ('.' :: Text.padded width n ++ mark :: rest) =
      some (n * 10 ^ (9 - width), mark :: rest) := by
  have hlength : (Text.padded width n).length = width := Text.length_padded hwidth hn
  have htaken : (Text.padded width n ++ mark :: rest).takeWhile Char.isDigit =
      Text.padded width n := by
    rw [List.takeWhile_append_of_pos (fun c => Text.isDigit_of_mem_padded),
      List.takeWhile_cons_of_neg (by simp [hmark]), List.append_nil]
  have hdropped : (Text.padded width n ++ mark :: rest).drop width = mark :: rest := by
    rw [List.drop_append_of_le_length (by omega), List.drop_of_length_le (by omega),
      List.nil_append]
  rw [List.cons_append, readFraction?, readDigits?_padded (by omega) hmark, htaken, hlength]
  simp only [Option.bind_eq_bind, Option.bind_some, Nat.min_eq_left hmost, Nat.pow_eq, hdropped]
  rfl

theorem readFraction?_renderFraction {nano : Nat} (hnano : nano < Span.second) {mark : Char}
    (hmark : mark.isDigit = false) (hpoint : mark ≠ '.') (rest : List Char) :
    readFraction? (renderFraction nano ++ mark :: rest) = some (nano, mark :: rest) := by
  have hbound : nano < 1000000000 := hnano
  unfold renderFraction
  split
  · next hzero =>
    rw [List.nil_append, readFraction?, hzero]
    simpa using hpoint
  split
  · next hmillis =>
    have hnano : nano / 1000000 * 10 ^ (9 - 3) = nano := by omega
    rw [readFraction?_padded (by decide) (by decide) (by omega) hmark, hnano]
  split
  · next hmicros =>
    have hnano : nano / 1000 * 10 ^ (9 - 6) = nano := by omega
    rw [readFraction?_padded (by decide) (by decide) (by omega) hmark, hnano]
  · rw [readFraction?_padded (by decide) (by decide) (by omega) hmark, Nat.sub_self, Nat.pow_zero,
      Nat.mul_one]

/-! ### Whole timestamps -/

/-- What follows the seconds is a point or the mark of the offset. -/
theorem exists_renderFraction_append (nano : Nat) (rest : List Char) :
    ∃ mark more, renderFraction nano ++ 'Z' :: rest = mark :: more ∧ mark.isDigit = false := by
  unfold renderFraction
  split
  · exact ⟨'Z', rest, rfl, by decide⟩
  split
  · exact ⟨'.', _, rfl, by decide⟩
  split
  · exact ⟨'.', _, rfl, by decide⟩
  · exact ⟨'.', _, rfl, by decide⟩

theorem readOffset?_utc : readOffset? (Text.trimStart ['Z']) = some (0, []) := by
  decide

/-- A text in the strict form has the fields that it is made of. -/
theorem read?_strict {date : Date} (hdate : date.Valid) {hour minute second nano : Nat}
    (hhour : hour < 100) (hminute : minute < 100) (hsecond : second < 100)
    (hnano : nano < Span.second) :
    Fields.read? (renderYear date.year ++ '-' :: (Text.padded 2 date.month ++
        '-' :: (Text.padded 2 date.day ++ 'T' :: (Text.padded 2 hour ++
          ':' :: (Text.padded 2 minute ++ ':' :: (Text.padded 2 second ++
            (renderFraction nano ++ ['Z']))))))) =
      some ⟨date, hour, minute, second, nano, 0⟩ := by
  obtain ⟨hmonth, hmonth', hday, hday'⟩ := hdate
  have hmost := Date.daysInMonth_le date.year date.month
  have hhyphen : Text.isBlank '-' = false := by decide
  have hcolon : Text.isBlank ':' = false := by decide
  have hfraction : readFraction? (renderFraction nano ++ ['Z']) = some (nano, ['Z']) :=
    readFraction?_renderFraction hnano (by decide) (by decide) []
  have hseconds : readField? (Text.padded 2 second ++ (renderFraction nano ++ ['Z'])) =
      some (second, renderFraction nano ++ ['Z']) := by
    obtain ⟨mark, more, hmore, hmark⟩ := exists_renderFraction_append nano []
    rw [hmore, readField?_padded hsecond hmark]
  rw [Fields.read?, readYear?_renderYear]
  simp only [Option.bind_eq_bind, Option.bind_some, skip?_cons hhyphen,
    skip?_cons hcolon, skipMark?,
    readField?_padded (show date.month < 100 by omega) (show '-'.isDigit = false by decide),
    readField?_padded (show date.day < 100 by omega) (show 'T'.isDigit = false by decide),
    readField?_padded hhour (show ':'.isDigit = false by decide),
    readField?_padded hminute (show ':'.isDigit = false by decide), hseconds, hfraction,
    readOffset?_utc]
  rfl

/-- The fields of a written timestamp that is no leap second. -/
theorem read?_renderLocal {s : Stamp} (hnano : s.nano < Span.second) :
    Fields.read? (s.renderLocal ++ ['Z']) =
      some ⟨Date.ofDays (s.second / daySeconds), (s.second % daySeconds).toNat / 3600,
        (s.second % daySeconds).toNat / 60 % 60, (s.second % daySeconds).toNat % 60,
        s.nano, 0⟩ := by
  have hday : (s.second % daySeconds).toNat < 86400 := by
    have hmin : 0 ≤ s.second % daySeconds := Int.emod_nonneg _ (by decide)
    have hmax : s.second % daySeconds < 86400 := Int.emod_lt_of_pos _ (by decide)
    omega
  rw [← read?_strict (Date.valid_ofDays _) (by omega) (by omega) (by omega) hnano, renderLocal,
    Nat.div_eq_of_lt hnano, Nat.mod_eq_of_lt hnano, Nat.add_zero]
  simp only [List.append_assoc, List.cons_append]

/-- A day and the fields of a time of day are put together again. -/
theorem second_of_fields (second : Int) :
    second / daySeconds * daySeconds +
        (((second % daySeconds).toNat / 3600 * 3600 + (second % daySeconds).toNat / 60 % 60 * 60 +
          min ((second % daySeconds).toNat % 60) 59 : Nat) : Int) = second := by
  have hmin : 0 ≤ second % daySeconds := Int.emod_nonneg _ (by decide)
  have hsum : second / daySeconds * daySeconds + second % daySeconds = second :=
    Int.ediv_mul_add_emod _ _
  generalize second / daySeconds * daySeconds = days at hsum
  generalize second % daySeconds = ofDay at hmin hsum
  omega

/-- **Timestamps read back.** A timestamp of the calendar that is no leap second is read from its
written form as it was. -/
theorem read?_render {s : Stamp} (hnano : s.nano < Span.second)
    (hcalendar : inCalendar s.second = true) :
    read? s.render = some s := by
  have hday : (s.second % daySeconds).toNat < 86400 := by
    have hmax : s.second % daySeconds < 86400 := Int.emod_lt_of_pos _ (by decide)
    omega
  have hhour : (s.second % daySeconds).toNat / 3600 ≤ 23 := by omega
  have hminute : (s.second % daySeconds).toNat / 60 % 60 ≤ 59 := by omega
  have hsecond : (s.second % daySeconds).toNat % 60 ≤ 60 := by omega
  have hleap : (s.second % daySeconds).toNat % 60 ≠ 60 := by omega
  have hoffset : ((0 : Int).natAbs : Int) < daySeconds := by decide
  rw [read?, render, String.toList_ofList, read?_renderLocal hnano]
  simp only [Option.bind_eq_bind, Option.bind_some, Fields.toStamp?, Date.toDays_ofDays,
    second_of_fields, Int.sub_zero]
  rw [if_pos ⟨Date.valid_ofDays _, hhour, hminute, hsecond, hoffset, hcalendar,
    hcalendar⟩, if_neg hleap, Nat.add_zero]

/-! ### Timestamps of instants -/

variable {t now : Instant}

theorem nano_ofInstant_lt (t : Instant) : (ofInstant t).nano < Span.second := by
  have hmin : 0 ≤ t % Span.second := Int.emod_nonneg _ (by decide)
  have hmax : t % Span.second < Span.second := Int.emod_lt_of_pos _ (by decide)
  exact (Int.toNat_lt hmin).2 hmax

/-- The timestamp of an instant says the instant to the nanosecond. -/
theorem toInstant_ofInstant (t : Instant) : (ofInstant t).toInstant = t := by
  have hmin : 0 ≤ t % Span.second := Int.emod_nonneg _ (by decide)
  rw [toInstant, ofInstant, Int.toNat_of_nonneg hmin]
  exact Int.ediv_mul_add_emod t Span.second

theorem inCalendar_ofInstant (h : t.InCalendar) : inCalendar (ofInstant t).second = true := by
  have hfirst : Instant.firstSecond ≤ t / Span.second := Int.le_ediv_of_mul_le (by decide) h.1
  have hlast : t / Span.second < Instant.lastSecond + 1 := by
    refine Int.ediv_lt_of_lt_mul (by decide) (Int.lt_of_le_of_lt h.2 ?_)
    decide
  rw [inCalendar, Bool.and_eq_true, decide_eq_true_eq, decide_eq_true_eq]
  exact ⟨hfirst, Int.le_of_lt_add_one hlast⟩

theorem read?_render_ofInstant (h : t.InCalendar) :
    read? (ofInstant t).render = some (ofInstant t) :=
  read?_render (nano_ofInstant_lt t) (inCalendar_ofInstant h)

theorem age_ofInstant (t now : Instant) : (ofInstant t).age now = (now - t).toNat := by
  have hleap : (ofInstant t).isLeap = false := by
    rw [isLeap, decide_eq_false_iff_not, Nat.not_le]
    exact nano_ofInstant_lt t
  rw [age, toInstant_ofInstant, hleap]
  simp

end Turnstile.Stamp
