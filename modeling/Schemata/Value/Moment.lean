import Schemata.Text.Digits

/-!
# Moments

A moment is a date and a time of day at an offset from universal time. Two moments are compared by
the instant that they name, not by how they are written, so `12:00:00+02:00` equals
`10:00:00Z`. A leap second is written with the second 60; it is kept as second 59 with more than a
billion nanoseconds, by which it comes after everything else in its minute.
-/

namespace Schemata

/-- A local date and time with its offset from universal time, in minutes. -/
structure Moment where
  year : Nat
  month : Nat
  day : Nat
  hour : Nat
  minute : Nat
  second : Nat
  /-- Nanoseconds past the second, a billion more in a leap second. -/
  nanosecond : Nat
  offset : Int
  deriving DecidableEq

namespace Moment

/-! ## The calendar -/

/-- Whether a year has a leap day. -/
def isLeapYear (year : Nat) : Bool :=
  year % 4 == 0 && (year % 100 != 0 || year % 400 == 0)

/-- The number of days of a month. -/
def daysInMonth (year month : Nat) : Nat :=
  if month = 2 then (if isLeapYear year then 29 else 28)
  else if month ∈ [4, 6, 9, 11] then 30
  else 31

/-- The number of days from the first of January of year zero to that of another year. -/
def daysBeforeYear (year : Nat) : Nat :=
  365 * year + (year + 3) / 4 + (year + 399) / 400 - (year + 99) / 100

/-- The days of the first months of a year. -/
def daysOfMonths (year : Nat) : Nat → Nat
  | 0 => 0
  | months + 1 => daysOfMonths year months + daysInMonth year (months + 1)

/-- The number of days from the first of January of year zero. -/
def dayNumber (m : Moment) : Nat :=
  daysBeforeYear m.year + daysOfMonths m.year (m.month - 1) + (m.day - 1)

/-- The instant: seconds of universal time since the start of year zero, and nanoseconds. -/
def instant (m : Moment) : Int × Nat :=
  ((m.dayNumber * 86400 + m.hour * 3600 + m.minute * 60 + m.second : Nat) - m.offset * 60,
    m.nanosecond)

/-- Compare the instants. -/
def compare (a b : Moment) : Ordering :=
  (Ord.compare a.instant.1 b.instant.1).then (Ord.compare a.instant.2 b.instant.2)

/-- Whether two moments name the same instant. -/
def equal (a b : Moment) : Bool := a.instant == b.instant

/-! ## Reading -/

/-- A number of exactly `n` digits, and the text after it. -/
def takeDigits (n : Nat) (cs : List Char) : Option (Nat × List Char) :=
  let ds := cs.take n
  if ds.length = n then (Text.natural? ds).map fun v => (v, cs.drop n) else none

/-- The text after one of some characters. -/
def skip (marks : List Char) : List Char → Option (List Char)
  | c :: rest => if marks.contains c then some rest else none
  | [] => none

/-- Nanoseconds of a fraction of any length, of which nine digits count, and the text after it. -/
def takeFraction (cs : List Char) : Option (Nat × List Char) :=
  let ds := cs.takeWhile Char.isDigit
  if ds.isEmpty then none
  else some (Text.digitsValue (ds.take 9) * Nat.pow 10 (9 - ds.length), cs.dropWhile Char.isDigit)

/-- An offset: the letter Z, or a sign, hours and minutes. The sign may be the minus sign proper. -/
def readOffset (cs : List Char) : Option Int :=
  match cs with
  | ['Z'] | ['z'] => some 0
  | sign :: rest => do
    let rest ← if ['+', '-', '\u2212'].contains sign then some rest else none
    let (hours, rest) ← takeDigits 2 rest
    let (minutes, rest) ← takeDigits 2 (← skip [':'] rest)
    if rest.isEmpty && hours ≤ 23 && minutes ≤ 59 then
      let offset : Int := hours * 60 + minutes
      some (if sign == '+' then offset else -offset)
    else none
  | [] => none

/-- Read a moment: date, time and offset, all of them in full. -/
def read? (cs : List Char) : Option Moment := do
  let (year, cs) ← takeDigits 4 cs
  let (month, cs) ← takeDigits 2 (← skip ['-'] cs)
  let (day, cs) ← takeDigits 2 (← skip ['-'] cs)
  let (hour, cs) ← takeDigits 2 (← skip ['T', 't', ' '] cs)
  let (minute, cs) ← takeDigits 2 (← skip [':'] cs)
  let (second, cs) ← takeDigits 2 (← skip [':'] cs)
  let (nanosecond, cs) ← match cs with
    | '.' :: rest => takeFraction rest
    | _ => some (0, cs)
  let offset ← readOffset cs
  if 1 ≤ month ∧ month ≤ 12 ∧ 1 ≤ day ∧ day ≤ daysInMonth year month ∧
      hour ≤ 23 ∧ minute ≤ 59 ∧ second ≤ 60 then
    if second = 60 then
      some ⟨year, month, day, hour, minute, 59, nanosecond + 1000000000, offset⟩
    else some ⟨year, month, day, hour, minute, second, nanosecond, offset⟩
  else none

/-! ## Writing -/

/-- A fraction of three, six or nine digits, whichever is the first that says it all, or none. -/
def fractionText (nanosecond : Nat) : List Char :=
  if nanosecond = 0 then []
  else if nanosecond % 1000000 = 0 then '.' :: Text.padded 3 (nanosecond / 1000000)
  else if nanosecond % 1000 = 0 then '.' :: Text.padded 6 (nanosecond / 1000)
  else '.' :: Text.padded 9 nanosecond

/-- Write a moment, with the offset in hours and minutes. -/
def text (m : Moment) : List Char :=
  let second := if m.nanosecond < 1000000000 then m.second else m.second + 1
  let offset := m.offset.natAbs
  Text.padded 4 m.year ++ '-' :: Text.padded 2 m.month ++ '-' :: Text.padded 2 m.day ++
    'T' :: Text.padded 2 m.hour ++ ':' :: Text.padded 2 m.minute ++ ':' :: Text.padded 2 second ++
    fractionText (m.nanosecond % 1000000000) ++
    (if m.offset < 0 then '-' else '+') :: Text.padded 2 (offset / 60) ++
    ':' :: Text.padded 2 (offset % 60)

end Moment

end Schemata
