/-!
# Calendar dates and points in time

Dates of the proleptic Gregorian calendar, counted in days from the first of January 1970; points in
time, with or without the offset of a time zone; and two notations for both: the standard one, and
the one that shows how the value is put together.
-/

namespace TypedFetch.Time

/-- A calendar date. -/
structure Date where
  /-- The year. -/
  year : Int
  /-- The month, from 1 to 12. -/
  month : Nat
  /-- The day of the month, from 1. -/
  day : Nat
deriving Repr, BEq, DecidableEq

/-- The year has a leap day. -/
def isLeap (year : Int) : Bool :=
  year % 4 == 0 && (year % 100 != 0 || year % 400 == 0)

/-- The number of days of a month. -/
def monthLength (year : Int) (month : Nat) : Nat :=
  if month == 2 then (if isLeap year then 29 else 28)
  else if month == 4 || month == 6 || month == 9 || month == 11 then 30
  else 31

/-- The date exists and its year has four digits at most. -/
def Date.isValid (d : Date) : Bool :=
  1 ≤ d.year && d.year ≤ 9999 && 1 ≤ d.month && d.month ≤ 12 && 1 ≤ d.day &&
    d.day ≤ monthLength d.year d.month

/-- The date that lies `days` days after the first of January 1970.  Years are counted from the
first of March, so that the leap day comes last. -/
def Date.ofDays (days : Int) : Date :=
  let shifted := days + 719468
  let era := shifted / 146097
  let dayOfEra := shifted % 146097
  let yearOfEra := (dayOfEra - dayOfEra / 1460 + dayOfEra / 36524 - dayOfEra / 146096) / 365
  let dayOfYear := dayOfEra - (365 * yearOfEra + yearOfEra / 4 - yearOfEra / 100)
  let marchMonth := (5 * dayOfYear + 2) / 153
  let day := dayOfYear - (153 * marchMonth + 2) / 5 + 1
  let month := if marchMonth < 10 then marchMonth + 3 else marchMonth - 9
  let year := yearOfEra + era * 400 + (if month ≤ 2 then 1 else 0)
  ⟨year, month.toNat, day.toNat⟩

/-- A number with leading zeros. -/
def padded (width n : Nat) : String :=
  let digits := toString n
  "".pushn '0' (width - digits.length) ++ digits

/-- The notation of a date. -/
def Date.text (d : Date) : String :=
  padded 4 d.year.toNat ++ "-" ++ padded 2 d.month ++ "-" ++ padded 2 d.day

/-- The notation of a time of day; a fraction is written only if there is one. -/
def clockText (second micros : Nat) : String :=
  padded 2 (second / 3600) ++ ":" ++ padded 2 (second / 60 % 60) ++ ":" ++ padded 2 (second % 60) ++
    (if micros == 0 then "" else "." ++ padded 6 micros)

/-- The number of days from the first of January 1970 to a date. -/
def Date.toDays (d : Date) : Int :=
  let year := if d.month ≤ 2 then d.year - 1 else d.year
  let era := year / 400
  let yearOfEra := year % 400
  let marchMonth : Int := (d.month + 9) % 12
  let dayOfYear := (153 * marchMonth + 2) / 5 + d.day - 1
  let dayOfEra := yearOfEra * 365 + yearOfEra / 4 - yearOfEra / 100 + dayOfYear
  era * 146097 + dayOfEra - 719468

/-- The date of a day of a week of a year.  The first week is the one with the first Thursday. -/
def Date.ofWeek? (year : Int) (week day : Nat) : Option Date :=
  let start := (Date.mk year 1 1).toDays
  -- The first of January 1970 was a Thursday; Monday counts zero.
  let weekday := (start + 3) % 7
  let isLong := weekday == 3 || (weekday == 2 && isLeap year)
  if week == 0 || 53 < week || (week == 53 && !isLong) || day == 0 || 7 < day then none
  else
    let firstMonday := if weekday ≤ 3 then start - weekday else start + 7 - weekday
    some (Date.ofDays (firstMonday + (week - 1) * 7 + day - 1))

/-- A point in time on the clocks of some place. -/
structure Instant where
  /-- The date. -/
  date : Date
  /-- The second of the day. -/
  second : Nat := 0
  /-- The microsecond of the second. -/
  micros : Nat := 0
  /-- How many microseconds the clocks are ahead of universal time, if that is known. -/
  offset : Option Int := none
deriving Repr, BEq, DecidableEq

/-- The notation of an offset; seconds and their fraction are written only where there are any. -/
def offsetText (offset : Int) : String :=
  let size := offset.natAbs
  let seconds := size / 1000000
  let micros := size % 1000000
  (if offset < 0 then "-" else "+") ++ padded 2 (seconds / 3600) ++ ":" ++
    padded 2 (seconds / 60 % 60) ++
    (if seconds % 60 == 0 && micros == 0 then "" else ":" ++ padded 2 (seconds % 60)) ++
    (if micros == 0 then "" else "." ++ padded 6 micros)

/-- The notation of a point in time, with a character between the date and the time of day. -/
def Instant.textWith (between : String) (t : Instant) : String :=
  t.date.text ++ between ++ clockText t.second t.micros ++ ((t.offset.map offsetText).getD "")

/-- The standard notation of a point in time. -/
def Instant.text (t : Instant) : String :=
  t.textWith "T"

/-- The microseconds since the start of 1970, in universal time if the offset is known. -/
def Instant.ticks (t : Instant) : Int :=
  (t.date.toDays * 86400 + t.second) * 1000000 + t.micros - t.offset.getD 0

/-- Both are the same point in time; clocks whose offset is known are never compared with others. -/
def Instant.same (a b : Instant) : Bool :=
  a.offset.isSome == b.offset.isSome && a.ticks == b.ticks

/-- The point in time that lies `seconds` seconds and `micros` microseconds after the start of 1970,
in universal time; none if its year has more than four digits. -/
def Instant.ofSeconds? (seconds : Int) (micros : Nat) : Option Instant :=
  let date := Date.ofDays (seconds / 86400)
  if date.isValid then some ⟨date, (seconds % 86400).toNat, micros, some 0⟩ else none

/-! ## Construction shown -/

/-- The parts of a date. -/
def Date.parts (d : Date) : List String :=
  [toString d.year, toString d.month, toString d.day]

/-- How a date is put together. -/
def Date.construction (d : Date) : String :=
  "datetime.date(" ++ ", ".intercalate d.parts ++ ")"

/-- How a span of microseconds is put together; only the days are negative. -/
def spanConstruction (micros : Int) : String :=
  let days := micros / 86400000000
  let seconds := micros / 1000000 % 86400
  let rest := micros % 1000000
  let part (name : String) (n : Int) : List String :=
    if n == 0 then [] else [name ++ "=" ++ toString n]
  let parts := part "days" days ++ part "seconds" seconds ++ part "microseconds" rest
  "datetime.timedelta(" ++ (if parts.isEmpty then "0" else ", ".intercalate parts) ++ ")"

/-- How a time zone is put together. -/
def zoneConstruction (offset : Int) : String :=
  if offset == 0 then "datetime.timezone.utc"
  else "datetime.timezone(" ++ spanConstruction offset ++ ")"

/-- How a point in time is put together; seconds and microseconds that are zero are left out at the
end. -/
def Instant.construction (t : Instant) : String :=
  let clock := [t.second / 3600, t.second / 60 % 60] ++
    (if t.micros != 0 then [t.second % 60, t.micros]
     else if t.second % 60 != 0 then [t.second % 60] else [])
  let zone := (t.offset.map fun o => ["tzinfo=" ++ zoneConstruction o]).getD []
  "datetime.datetime(" ++ ", ".intercalate (t.date.parts ++ clock.map toString ++ zone) ++ ")"

end TypedFetch.Time
