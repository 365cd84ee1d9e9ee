import EndpointDocs.Text.Blank

/-!
Moments of the calendar and the three ways in which pages write them.
-/
namespace EndpointDocs

structure Moment where
  year : Nat
  month : Nat
  day : Nat
  hour : Nat
  minute : Nat
  second : Nat
  microsecond : Nat
  deriving DecidableEq, Repr

namespace Moment

/-- The date that is `days` after the first of January 1970. Years are counted from March, so that a
leap day is the last day of its year, in periods of 400 years. -/
def dateOfDays (days : Nat) : Nat × Nat × Nat :=
  let shifted := days + 719468
  let period := shifted / 146097
  let day := shifted % 146097
  let year := (day - day / 1460 + day / 36524 - day / 146096) / 365
  let dayOfYear := day - (365 * year + year / 4 - year / 100)
  let fromMarch := (5 * dayOfYear + 2) / 153
  let month := if fromMarch < 10 then fromMarch + 3 else fromMarch - 9
  (year + 400 * period + (if month ≤ 2 then 1 else 0), month,
    dayOfYear - (153 * fromMarch + 2) / 5 + 1)

/-- The moment in universal time that is so many microseconds after the start of 1970. -/
def ofMicroseconds (count : Nat) : Moment :=
  let seconds := count / 1000000
  let (year, month, day) := dateOfDays (seconds / 86400)
  ⟨year, month, day, seconds / 3600 % 24, seconds / 60 % 60, seconds % 60, count % 1000000⟩

def daysOf (year month : Nat) : Nat :=
  if month == 2 then
    if year % 4 == 0 && (year % 100 != 0 || year % 400 == 0) then 29 else 28
  else if [4, 6, 9, 11].contains month then 30
  else 31

/-- The number of a day, counted from the beginning of the year 1. -/
def dayNumber (moment : Moment) : Nat :=
  let before := moment.year - 1
  365 * before + before / 4 - before / 100 + before / 400 +
    (List.range (moment.month - 1)).foldl
      (fun days month => days + daysOf moment.year (month + 1)) moment.day

/-- The number of microseconds since the day before the year 1. -/
def microseconds (moment : Moment) : Nat :=
  (((moment.dayNumber * 24 + moment.hour) * 60 + moment.minute) * 60 + moment.second) * 1000000 +
    moment.microsecond

/-- The moment one second later; there is none after the year 9999. -/
def nextSecond? (moment : Moment) : Option Moment :=
  if moment.second < 59 then some { moment with second := moment.second + 1 }
  else if moment.minute < 59 then some { moment with minute := moment.minute + 1, second := 0 }
  else if moment.hour < 23 then
    some { moment with hour := moment.hour + 1, minute := 0, second := 0 }
  else
    let midnight := { moment with hour := 0, minute := 0, second := 0 }
    if moment.day < daysOf moment.year moment.month then
      some { midnight with day := moment.day + 1 }
    else if moment.month < 12 then some { midnight with day := 1, month := moment.month + 1 }
    else if moment.year < 9999 then
      some { midnight with day := 1, month := 1, year := moment.year + 1 }
    else none

/-- A number in decimal, with zeros in front up to `width` digits. -/
def padded (width n : Nat) : String :=
  let digits := Nat.toDigits 10 n
  String.ofList (List.replicate (width - digits.length) '0' ++ digits)

def monthName (month : Nat) : String :=
  let names :=
    ["Jan", "Feb", "Mar", "Apr", "May", "Jun", "Jul", "Aug", "Sep", "Oct", "Nov", "Dec"]
  names[month - 1]?.getD ""

/-- The name of a zone that is `offset` seconds ahead of universal time. -/
def zoneName (offset : Int) : String :=
  if offset = 0 then "UTC"
  else
    let size := offset.natAbs
    let seconds := if size % 60 = 0 then "" else ":" ++ padded 2 (size % 60)
    "UTC" ++ (if offset < 0 then "-" else "+") ++ padded 2 (size / 3600) ++ ":" ++
      padded 2 (size / 60 % 60) ++ seconds

/-- Month, day and year, then the time on a clock of twelve hours, then the zone, of which nothing
is written from a NUL character on. -/
def stamp (moment : Moment) (zone : String) : String :=
  let hour := if moment.hour % 12 = 0 then 12 else moment.hour % 12
  let half := if moment.hour < 12 then "AM" else "PM"
  Text.trimEnd
    (monthName moment.month ++ " " ++ toString moment.day ++ ", " ++ toString moment.year ++ "  " ++
      toString hour ++ ":" ++ padded 2 moment.minute ++ half ++ " " ++
      String.ofList (zone.toList.takeWhile (· != Char.ofNat 0)))

/-- Year, month and day, then hours and minutes, in universal time. -/
def minuteStamp (moment : Moment) : String :=
  toString moment.year ++ "-" ++ padded 2 moment.month ++ "-" ++ padded 2 moment.day ++ " " ++
    padded 2 moment.hour ++ ":" ++ padded 2 moment.minute ++ " UTC"

def date (moment : Moment) : String :=
  padded 4 moment.year ++ "-" ++ padded 2 moment.month ++ "-" ++ padded 2 moment.day

/-- The time of day; a fraction of a second is written only if there is one. -/
def clock (moment : Moment) : String :=
  padded 2 moment.hour ++ ":" ++ padded 2 moment.minute ++ ":" ++ padded 2 moment.second ++
    (if moment.microsecond = 0 then "" else "." ++ padded 6 moment.microsecond)

/-- Date and time with milliseconds, as reports are stamped. -/
def reportStamp (moment : Moment) : String :=
  moment.date ++ " " ++ { moment with microsecond := 0 }.clock ++ "," ++
    padded 3 (moment.microsecond / 1000)

/-- The machine-readable form in universal time. -/
def iso (moment : Moment) : String :=
  moment.date ++ "T" ++ moment.clock ++ "+00:00"

end Moment

end EndpointDocs
