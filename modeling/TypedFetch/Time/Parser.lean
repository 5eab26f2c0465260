import TypedFetch.Number.Double
import TypedFetch.Time.Calendar

/-!
# Reading dates and points in time

Dates are read with or without hyphens, by month and day or by week and weekday.  A time of day
follows after any one character; its parts may be cut off from the right, colons may be missing,
and a fraction is cut to microseconds.  The offset of a time zone ends it.
-/

namespace TypedFetch.Time

/-- Cuts off a number of digits. -/
def takeDigits (count : Nat) (cs : List Char) : Option (Nat × List Char) :=
  let digits := cs.take count
  if digits.length == count && digits.all Char.isDigit then
    some (Number.digitsValue digits, cs.drop count)
  else none

/-- Cuts off a character, if it must be there. -/
def takeMark (needed : Bool) (mark : Char) (cs : List Char) : Option (List Char) :=
  if !needed then some cs else if cs.head? == some mark then some (cs.drop 1) else none

/-- Reads a date that fills the text. -/
def parseDate? (cs : List Char) : Option Date := do
  let (year, rest) ← takeDigits 4 cs
  let hyphens := rest.head? == some '-'
  let rest := if hyphens then rest.drop 1 else rest
  if rest.head? == some 'W' then
    let (week, rest) ← takeDigits 2 (rest.drop 1)
    let day ←
      if rest.isEmpty then some 1
      else do
        let (day, rest) ← takeDigits 1 (← takeMark hyphens '-' rest)
        if rest.isEmpty then some day else none
    (Date.ofWeek? year week day).filter Date.isValid
  else
    let (month, rest) ← takeDigits 2 rest
    let (day, rest) ← takeDigits 2 (← takeMark hyphens '-' rest)
    let date : Date := ⟨year, month, day⟩
    if rest.isEmpty && date.isValid then some date else none

/-- How many characters of a text are the date. -/
def dateLength (cs : List Char) : Nat :=
  let digitAt (i : Nat) : Bool := ((cs[i]?).map Char.isDigit).getD false
  if cs.length == 7 then 7
  else if cs[4]? == some '-' then
    if cs[5]? == some 'W' then
      if cs[8]? == some '-' && !digitAt 10 then 10 else 8
    else 10
  else if cs[4]? == some 'W' then
    let stop := 7 + ((cs.drop 7).takeWhile Char.isDigit).length
    if stop < 9 then stop else if stop % 2 == 0 then 7 else 8
  else 8

/-- A time as it is written. -/
structure ClockText where
  /-- Hours, minutes and seconds, as far as they are given. -/
  parts : List Nat
  /-- The microseconds. -/
  micros : Nat := 0
  /-- Something stands behind the time. -/
  isFollowed : Bool := false

/-- The seconds of a time. -/
def ClockText.seconds (c : ClockText) : Nat :=
  c.parts.getD 0 0 * 3600 + c.parts.getD 1 0 * 60 + c.parts.getD 2 0

/-- The parts of a time are those of a day. -/
def ClockText.isOfDay (c : ClockText) : Bool :=
  c.parts.getD 0 0 < 24 && c.parts.getD 1 0 < 60 && c.parts.getD 2 0 < 60

/-- Reads a fraction of a second.  Digits after the sixth one are passed over. -/
def parseFraction? (cs : List Char) : Option ClockText :=
  let digits := cs.take 6
  if digits.isEmpty || !digits.all Char.isDigit then none
  else
    some {
      parts := []
      micros := Number.digitsValue (digits ++ List.replicate (6 - digits.length) '0')
      isFollowed := !((cs.drop 6).dropWhile Char.isDigit).isEmpty }

/-- Reads up to `parts` further parts of a time, and a fraction after the last one.  A single
character behind a part is taken as what follows the time. -/
def parseParts? (colons : Bool) : Nat → List Char → Option ClockText
  | 0, cs => parseFraction? cs
  | parts + 1, cs => do
    let (n, rest) ← takeDigits 2 cs
    match rest with
    | [] => return { parts := [n] }
    | c :: more =>
      if more.isEmpty then return { parts := [n], isFollowed := true }
      else if c == '.' || c == ',' then
        let fraction ← parseFraction? more
        return { fraction with parts := [n] }
      else if colons && c != ':' then none
      else
        let others ← parseParts? colons parts (if colons then more else rest)
        return { others with parts := n :: others.parts }

/-- Reads a time. -/
def parseClock? (cs : List Char) : Option ClockText :=
  parseParts? (cs[2]? == some ':') 3 cs

/-- The microseconds of a day. -/
def dayMicros : Nat := 86400000000

/-- Reads the offset of a time zone after its sign.  It is less than a day; one without a second is
none. -/
def parseOffset? (negative : Bool) (cs : List Char) : Option Int := do
  let clock ← parseClock? cs
  let micros := if clock.seconds == 0 then 0 else clock.seconds * 1000000 + clock.micros
  if clock.isFollowed || dayMicros ≤ micros then none
  else some (Number.signed negative micros)

/-- Reads a point in time that fills the text.  In front of a time zone, what follows the time is
passed over. -/
def parseInstant? (cs : List Char) : Option Instant := do
  let length := dateLength cs
  let date ← parseDate? (cs.take length)
  if (cs.drop length).isEmpty then return { date }
  else
    let rest := cs.drop (length + 1)
    let isZone (c : Char) : Bool := c == '+' || c == '-' || c == 'Z'
    let body := rest.takeWhile (!isZone ·)
    let clock ← parseClock? body
    if !clock.isOfDay then none
    match rest.drop body.length with
    | [] => if clock.isFollowed then none else some ⟨date, clock.seconds, clock.micros, none⟩
    | 'Z' :: rest =>
      if rest.isEmpty then some ⟨date, clock.seconds, clock.micros, some 0⟩ else none
    | sign :: rest =>
      let offset ← parseOffset? (sign == '-') rest
      return ⟨date, clock.seconds, clock.micros, some offset⟩

end TypedFetch.Time
