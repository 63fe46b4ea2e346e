import Turnstile.Calendar.Date
import Turnstile.Calendar.Instant
import Turnstile.Text.Blank
import Turnstile.Text.Digits

/-!
# Timestamps

A timestamp is a second of UTC and a fraction in nanoseconds. A fraction of a whole second or more
marks a leap second: it belongs to the second before it, which then reads `:60`.

Timestamps are written in RFC 3339 with as many fraction digits as they need, in groups of three.
They are read more freely: blanks may stand around the fields, an offset may spell its colon in
several ways or not at all, and years of any length may carry a sign.

## Main definitions

- `Stamp` — a second and its fraction
- `Stamp.age` — the time from a stamp to an instant
- `Stamp.render` — the written form
- `Stamp.read?` — the free reader
-/

namespace Turnstile

/-- A second of UTC and the nanoseconds after it; a whole second or more of them is a leap second.
-/
structure Stamp where
  second : Int
  nano : Nat
deriving DecidableEq, Repr

namespace Stamp

/-- The seconds of a day. -/
def daySeconds : Int := 86400

/-- The timestamp of an instant, never a leap second. -/
def ofInstant (t : Instant) : Stamp :=
  ⟨t / Span.second, (t % Span.second).toNat⟩

/-- The instant of a timestamp; a leap second is the instant after it. -/
def toInstant (s : Stamp) : Instant :=
  s.second * Span.second + s.nano

/-- Whether the timestamp lies in a leap second. -/
def isLeap (s : Stamp) : Bool :=
  Span.second ≤ s.nano

/-- The time from a timestamp to `now`, zero if it lies ahead. The second that a leap second adds to
its day is counted when `now` is later in the day than the timestamp. -/
def age (s : Stamp) (now : Instant) : Span :=
  let later := s.second % daySeconds < now / Span.second % daySeconds
  (now - s.toInstant + if s.isLeap && later then (Span.second : Int) else 0).toNat

/-! ### Writing -/

/-- Years of four digits stand alone, all others carry their sign. -/
def renderYear (year : Int) : List Char :=
  if 0 ≤ year ∧ year ≤ 9999 then Text.padded 4 year.toNat
  else (if year < 0 then '-' else '+') :: Text.padded 4 year.natAbs

/-- The fraction of a second in the fewest groups of three digits. -/
def renderFraction (nano : Nat) : List Char :=
  if nano = 0 then []
  else if nano % 1000000 = 0 then '.' :: Text.padded 3 (nano / 1000000)
  else if nano % 1000 = 0 then '.' :: Text.padded 6 (nano / 1000)
  else '.' :: Text.padded 9 nano

/-- Date and time of day, without an offset. -/
def renderLocal (s : Stamp) : List Char :=
  let date := Date.ofDays (s.second / daySeconds)
  let ofDay := (s.second % daySeconds).toNat
  renderYear date.year ++ '-' :: Text.padded 2 date.month ++ '-' :: Text.padded 2 date.day
    ++ 'T' :: Text.padded 2 (ofDay / 3600) ++ ':' :: Text.padded 2 (ofDay / 60 % 60)
    ++ ':' :: Text.padded 2 (ofDay % 60 + s.nano / Span.second)
    ++ renderFraction (s.nano % Span.second)

/-- The written form, with `Z` for the offset. -/
def render (s : Stamp) : String :=
  String.ofList (s.renderLocal ++ ['Z'])

/-- The written form with the offset spelled out. -/
def renderWithOffset (s : Stamp) : String :=
  String.ofList (s.renderLocal ++ "+00:00".toList)

/-! ### Reading -/

/-- Reads as many digits as there are, up to `most`, and at least one. -/
def readDigits? (most : Nat) (cs : List Char) : Option (Nat × List Char) :=
  let digits := (cs.takeWhile Char.isDigit).take most
  if digits = [] then none else some (Text.digitsValue digits, cs.drop digits.length)

/-- Reads a number of one or two digits after any blanks. -/
def readField? (cs : List Char) : Option (Nat × List Char) :=
  readDigits? 2 (Text.trimStart cs)

/-- Reads a year after any blanks: up to four digits, or a sign and any number of them. -/
def readYear? (cs : List Char) : Option (Int × List Char) :=
  match Text.trimStart cs with
  | '-' :: rest => (readDigits? rest.length rest).map fun (n, r) => (-(n : Int), r)
  | '+' :: rest => (readDigits? rest.length rest).map fun (n, r) => ((n : Int), r)
  | rest => (readDigits? 4 rest).map fun (n, r) => ((n : Int), r)

/-- Drops one given character after any blanks. -/
def skip? (c : Char) (cs : List Char) : Option (List Char) :=
  match Text.trimStart cs with
  | d :: rest => if d = c then some rest else none
  | [] => none

/-- Reads a fraction if there is one: nine digits count, all others are dropped. -/
def readFraction? : List Char → Option (Nat × List Char)
  | '.' :: rest => do
    let (n, _) ← readDigits? 9 rest
    let count := (rest.takeWhile Char.isDigit).length
    return (n * Nat.pow 10 (9 - min count 9), rest.drop count)
  | cs => some (0, cs)

/-- Reads the digits of an offset: two for hours and two for minutes below sixty, with any colons
and blanks between them. The result is in seconds. -/
def readOffsetDigits? : List Char → Option (Nat × List Char)
  | h :: h' :: rest =>
    match rest.dropWhile fun c => c = ':' || Text.isBlank c with
    | m :: m' :: rest' =>
      if h.isDigit && h'.isDigit && '0' ≤ m && m ≤ '5' && m'.isDigit then
        some ((Text.digitsValue [h, h'] * 60 + Text.digitsValue [m, m']) * 60, rest')
      else none
    | _ => none
  | _ => none

/-- Reads the offset from UTC in seconds, by name or by digits; the sign may be the minus sign
U+2212. -/
def readOffset? (cs : List Char) : Option (Int × List Char) :=
  if (cs.take 3).map Char.toUpper = ['U', 'T', 'C'] then some (0, cs.drop 3)
  else
    match cs with
    | 'Z' :: rest => some (0, rest)
    | 'z' :: rest => some (0, rest)
    | '+' :: rest => (readOffsetDigits? rest).map fun (n, r) => ((n : Int), r)
    | '-' :: rest => (readOffsetDigits? rest).map fun (n, r) => (-(n : Int), r)
    | '\u2212' :: rest => (readOffsetDigits? rest).map fun (n, r) => (-(n : Int), r)
    | _ => none

/-- The mark between date and time. -/
def skipMark? : List Char → Option (List Char)
  | 'T' :: rest => some rest
  | 't' :: rest => some rest
  | ' ' :: rest => some rest
  | _ => none

/-- The fields of a timestamp as they stand in its text. -/
structure Fields where
  date : Date
  hour : Nat
  minute : Nat
  second : Nat
  nano : Nat
  offset : Int
deriving DecidableEq

/-- Reads the fields of a whole text. -/
def Fields.read? (cs : List Char) : Option Fields := do
  let (year, cs) ← readYear? cs
  let cs ← skip? '-' cs
  let (month, cs) ← readField? cs
  let cs ← skip? '-' cs
  let (day, cs) ← readField? cs
  let cs ← skipMark? cs
  let (hour, cs) ← readField? cs
  let cs ← skip? ':' cs
  let (minute, cs) ← readField? cs
  let cs ← skip? ':' cs
  let (second, cs) ← readField? cs
  let (nano, cs) ← readFraction? cs
  let (offset, cs) ← readOffset? (Text.trimStart cs)
  if Text.trimStart cs = [] then
    return ⟨⟨year, month, day⟩, hour, minute, second, nano, offset⟩
  else none

/-- Whether a day number lies in the calendar. -/
def inCalendar (second : Int) : Bool :=
  Instant.firstSecond ≤ second && second ≤ Instant.lastSecond

/-- The timestamp of fields that name a real day and time. Local and universal time both have to lie
in the calendar. -/
def Fields.toStamp? (f : Fields) : Option Stamp :=
  let ofDay := f.hour * 3600 + f.minute * 60 + min f.second 59
  let localSecond := f.date.toDays * daySeconds + ofDay
  let second := localSecond - f.offset
  if f.date.Valid ∧ f.hour ≤ 23 ∧ f.minute ≤ 59 ∧ f.second ≤ 60 ∧ f.offset.natAbs < daySeconds
      ∧ inCalendar localSecond ∧ inCalendar second then
    some ⟨second, f.nano + if f.second = 60 then Span.second else 0⟩
  else none

/-- Reads a timestamp in the free form of RFC 3339. -/
def read? (s : String) : Option Stamp := do
  (← Fields.read? s.toList).toStamp?

end Stamp

end Turnstile
