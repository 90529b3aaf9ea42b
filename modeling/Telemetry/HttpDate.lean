import Telemetry.Text.Blank
import Telemetry.Time

/-! Dates of HTTP headers, in the preferred form `Sun, 06 Nov 1994 08:49:37 GMT` and the two older
ones `Sunday, 06-Nov-94 08:49:37 GMT` and `Sun Nov  6 08:49:37 1994`. -/

namespace Telemetry.HttpDate

/-- A date with its day of the week, Monday being the first. -/
structure Parts where
  year : Nat
  month : Nat
  day : Nat
  hour : Nat
  minute : Nat
  second : Nat
  weekday : Nat
deriving DecidableEq, Repr

/-- Whether a year has a leap day. -/
def isLeap (y : Nat) : Bool := y % 4 == 0 && (y % 100 != 0 || y % 400 == 0)

/-- The days of a month. -/
def monthDays (y m : Nat) : Nat :=
  if m = 2 then (if isLeap y then 29 else 28)
  else if m = 4 ∨ m = 6 ∨ m = 9 ∨ m = 11 then 30 else 31

/-- The days before a year, counted from the year 1. -/
def daysBeforeYear (y : Nat) : Nat :=
  let p := y - 1
  365 * p + p / 4 - p / 100 + p / 400

/-- Days since the start of 1970. -/
def days (y m d : Nat) : Nat :=
  let before := (List.range (m - 1)).foldl (fun n i => n + monthDays y (i + 1)) 0
  daysBeforeYear y + before + (d - 1) - daysBeforeYear 1970

/-- The day of the week of a number of days since the start of 1970, a Thursday. -/
def weekdayOf (days : Nat) : Nat := (days + 3) % 7 + 1

namespace Parts

/-- Whether the parts name a day, with its day of the week, and a time of it. -/
def isValid (p : Parts) : Bool :=
  p.second < 60 && p.minute < 60 && p.hour < 24 && 1970 ≤ p.year && p.year ≤ 9999 &&
    1 ≤ p.month && p.month ≤ 12 && 1 ≤ p.day && p.day ≤ monthDays p.year p.month &&
    p.weekday == weekdayOf (days p.year p.month p.day)

/-- The point in time. -/
def instant (p : Parts) : Instant :=
  .ofSeconds (days p.year p.month p.day * 86400 + p.hour * 3600 + p.minute * 60 + p.second)

end Parts

/-- The number that digits at a place stand for. -/
def number? (cs : List Char) : Option Nat :=
  if cs.all Char.isDigit then some (cs.foldl (fun n c => n * 10 + (c.toNat - 48)) 0) else none

/-- The characters from a place on. -/
def slice (cs : List Char) (start length : Nat) : List Char := (cs.drop start).take length

/-- The position of a text among names, counted from one. -/
def among? (names : List String) (text : List Char) : Option Nat :=
  (names.findIdx? fun n => n.toList = text).map (· + 1)

/-- The short names of the months. -/
def months : List String :=
  ["Jan", "Feb", "Mar", "Apr", "May", "Jun", "Jul", "Aug", "Sep", "Oct", "Nov", "Dec"]

/-- The short names of the days of the week. -/
def weekdays : List String := ["Mon", "Tue", "Wed", "Thu", "Fri", "Sat", "Sun"]

/-- The long names of the days of the week. -/
def longWeekdays : List String :=
  ["Monday", "Tuesday", "Wednesday", "Thursday", "Friday", "Saturday", "Sunday"]

/-- Hours, minutes and seconds with colons between them. -/
def clock? (cs : List Char) : Option (Nat × Nat × Nat) :=
  if slice cs 2 1 = [':'] ∧ slice cs 5 1 = [':'] then do
    let h ← number? (slice cs 0 2)
    let m ← number? (slice cs 3 2)
    let s ← number? (slice cs 6 2)
    return (h, m, s)
  else none

/-- The preferred form. -/
def preferred? (cs : List Char) : Option Parts :=
  if cs.length = 29 ∧ cs.drop 25 = " GMT".toList ∧ slice cs 16 1 = [' '] then do
    let weekday ← among? (weekdays.map (· ++ ", ")) (cs.take 5)
    let day ← number? (slice cs 5 2)
    let month ← among? (months.map fun m => " " ++ m ++ " ") (slice cs 7 5)
    let year ← number? (slice cs 12 4)
    let (hour, minute, second) ← clock? (slice cs 17 8)
    return { year, month, day, hour, minute, second, weekday }
  else none

/-- The form with a year of two digits, those below 70 being of this century. -/
def shortYear? (cs : List Char) : Option Parts := do
  let name := cs.takeWhile (· ≠ ',')
  let rest := cs.drop (name.length + 2)
  if slice cs name.length 2 = ", ".toList ∧ rest.length = 22 ∧ rest.drop 18 = " GMT".toList then
    let weekday ← among? longWeekdays name
    let day ← number? (slice rest 0 2)
    let month ← among? (months.map fun m => "-" ++ m ++ "-") (slice rest 2 5)
    let y ← number? (slice rest 7 2)
    let (hour, minute, second) ← clock? (slice rest 10 8)
    let year := if y < 70 then 2000 + y else 1900 + y
    return { year, month, day, hour, minute, second, weekday }
  else none

/-- The form without a zone, a blank standing for a leading zero of the day. -/
def zoneless? (cs : List Char) : Option Parts :=
  if cs.length = 24 ∧ slice cs 10 1 = [' '] ∧ slice cs 19 1 = [' '] then do
    let weekday ← among? (weekdays.map (· ++ " ")) (cs.take 4)
    let month ← among? (months.map (· ++ " ")) (slice cs 4 4)
    let day ← number? (if slice cs 8 1 = [' '] then slice cs 9 1 else slice cs 8 2)
    let (hour, minute, second) ← clock? (slice cs 11 8)
    let year ← number? (slice cs 20 4)
    return { year, month, day, hour, minute, second, weekday }
  else none

end Telemetry.HttpDate

namespace Telemetry

/-- Reads the date of an HTTP header. -/
def Instant.ofHttpDate? (s : String) : Option Instant :=
  let cs := s.toList
  if cs.all fun c => c.toNat < 128 then do
    let cs := trimList isBlank cs
    let parts ← (HttpDate.preferred? cs).or ((HttpDate.shortYear? cs).or (HttpDate.zoneless? cs))
    if parts.isValid then some parts.instant else none
  else none

end Telemetry
