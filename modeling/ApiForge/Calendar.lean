import ApiForge.Text.Basic

/-!
# Dates and moments

Days of the proleptic Gregorian calendar in the years 1 to 9999, and times of
day on them with an optional distance from universal time.
-/

namespace ApiForge

structure Date where
  year : Nat
  month : Nat
  day : Nat
  deriving DecidableEq, Repr

namespace Date

def isLeap (year : Nat) : Bool :=
  year % 4 == 0 && (year % 100 != 0 || year % 400 == 0)

def daysIn (year month : Nat) : Nat :=
  if month = 2 then if isLeap year then 29 else 28
  else if month = 4 ∨ month = 6 ∨ month = 9 ∨ month = 11 then 30
  else 31

/-- The calendar has this day. -/
def isValid (date : Date) : Bool :=
  1 ≤ date.year && date.year ≤ 9999 && 1 ≤ date.month && date.month ≤ 12 &&
    1 ≤ date.day && date.day ≤ daysIn date.year date.month

/-- The days since the day before the first of January of the year 1. -/
def ordinal (date : Date) : Nat :=
  let years := date.year - 1
  years * 365 + years / 4 - years / 100 + years / 400 +
    (List.range (date.month - 1)).foldl (fun days month => days + daysIn date.year (month + 1)) 0 +
    date.day

/-- The day that comes so many days after the first of January 1970. Years are counted from March,
so that a leap day is the last day of its year. -/
def ofDaysSince1970 (days : Nat) : Date :=
  let days := days + 719468
  let inCycle := days % 146097
  let yearInCycle := (inCycle - inCycle / 1460 + inCycle / 36524 - inCycle / 146096) / 365
  let inYear := inCycle - (365 * yearInCycle + yearInCycle / 4 - yearInCycle / 100)
  let monthFromMarch := (5 * inYear + 2) / 153
  let month := if monthFromMarch < 10 then monthFromMarch + 3 else monthFromMarch - 9
  let year := yearInCycle + days / 146097 * 400
  { year := if month ≤ 2 then year + 1 else year
    month
    day := inYear - (153 * monthFromMarch + 2) / 5 + 1 }

def spell (date : Date) : Text :=
  Text.padded 4 date.year ++ "-" ++ Text.padded 2 date.month ++ "-" ++ Text.padded 2 date.day

end Date

/-- A time on a day; `offset` counts the minutes that the clock is ahead of universal time. -/
structure Moment where
  date : Date
  hour : Nat
  minute : Nat
  second : Nat
  microsecond : Nat
  offset : Option Int
  deriving DecidableEq, Repr

namespace Moment

/-- The day and the time exist, and the offset is shorter than a day. -/
def isValid (moment : Moment) : Bool :=
  moment.date.isValid && moment.hour < 24 && moment.minute < 60 && moment.second < 60 &&
    moment.microsecond < 1000000 &&
    match moment.offset with
    | some minutes => minutes.natAbs < 1440
    | none => true

/-- The microseconds of universal time, of local time if no offset is known. -/
def instant (moment : Moment) : Int :=
  let minutes : Int := (moment.date.ordinal * 1440 + moment.hour * 60 + moment.minute : Nat)
  ((minutes - moment.offset.getD 0) * 60 + moment.second) * 1000000 + moment.microsecond

/-- Both moments name one point of the same time line. -/
def isSameTime (first second : Moment) : Bool :=
  first.offset.isSome == second.offset.isSome && first.instant == second.instant

def spellOffset (minutes : Int) : Text :=
  (if minutes < 0 then "-" else "+") ++ Text.padded 2 (minutes.natAbs / 60) ++ ":" ++
    Text.padded 2 (minutes.natAbs % 60)

def spellTime (moment : Moment) : Text :=
  Text.padded 2 moment.hour ++ ":" ++ Text.padded 2 moment.minute ++ ":" ++
    Text.padded 2 moment.second ++
    if moment.microsecond = 0 then [] else '.' :: Text.padded 6 moment.microsecond

/-- The moment of universal time so many seconds after the beginning of 1970. -/
def ofSecondsSince1970 (seconds microseconds : Nat) : Moment :=
  { date := Date.ofDaysSince1970 (seconds / 86400)
    hour := seconds / 3600 % 24
    minute := seconds / 60 % 60
    second := seconds % 60
    microsecond := microseconds % 1000000
    offset := some 0 }

/-- Day, separator, time and offset. -/
def spell (separator : Char) (moment : Moment) : Text :=
  moment.date.spell ++ [separator] ++ moment.spellTime ++
    match moment.offset with
    | some minutes => spellOffset minutes
    | none => []

end Moment

end ApiForge
