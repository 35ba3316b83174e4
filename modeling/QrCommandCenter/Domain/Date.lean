import Mathlib.Algebra.Order.Ring.Nat
import QrCommandCenter.Domain.Classroom

/-!
# Dates

`time.Parse` for the two layouts the scraper uses, as `GetCourseStatus` of `internal/domain/classroom.go` and the
validators read dates. All times are UTC.

* `parseDate` : the layout `2006-01-02`;
* `parseDateTime` : the layout `2006-01-02T15:04:05`, which also accepts a fraction of a second;
* `getCourseStatus` : the status of a course at a time.
-/

namespace QrCommandCenter.Domain

structure Date where
  year : Nat
  month : Nat
  day : Nat
deriving DecidableEq, Repr

namespace Date

def isLeap (year : Nat) : Bool := year % 4 = 0 && (year % 100 ≠ 0 || year % 400 = 0)

def daysIn (year month : Nat) : Nat :=
  if month = 2 then (if isLeap year then 29 else 28)
  else if month = 4 ∨ month = 6 ∨ month = 9 ∨ month = 11 then 30
  else 31

def daysBefore (year month : Nat) : Nat := ((List.range (month - 1)).map fun m => daysIn year (m + 1)).sum

/-- Midnight at the start of the date; Go's zero time is the first of January of year 1. -/
def time (d : Date) : Time :=
  let past : Int := d.year - 1
  (365 * past + past / 4 - past / 100 + past / 400 + daysBefore d.year d.month + (d.day - 1)) * (24 * hour)

end Date

/-! ## Parsing -/

def digit? (c : Char) : Option Nat := if c.isDigit then some (c.toNat - '0'.toNat) else none

/-- Exactly `n` digits. -/
def digits : Nat → List Char → Option (Nat × List Char)
  | 0, text => some (0, text)
  | _ + 1, [] => none
  | n + 1, c :: text => do
    let value ← digit? c
    let (rest, text) ← digits n text
    some (value * 10 ^ n + rest, text)

/-- `getnum` without a fixed width: one or two digits. -/
def getnum (text : List Char) : Option (Nat × List Char) := (digits 2 text).or (digits 1 text)

def expect (c : Char) : List Char → Option (List Char)
  | d :: text => if c = d then some text else none
  | [] => none

def scanDate (text : List Char) : Option (Date × List Char) := do
  let (year, text) ← digits 4 text
  let text ← expect '-' text
  let (month, text) ← digits 2 text
  let text ← expect '-' text
  let (day, text) ← digits 2 text
  if 1 ≤ month ∧ month ≤ 12 then some (⟨year, month, day⟩, text) else none

/-- The check `time.Parse` makes once the whole text is read. -/
def checkDay (d : Date) : Option Date := if 1 ≤ d.day ∧ d.day ≤ Date.daysIn d.year d.month then some d else none

/-- `time.Parse("2006-01-02", text)`. -/
def parseDate (text : String) : Option Date := do
  let (d, rest) ← scanDate text.toList
  if rest = [] then checkDay d else none

/-- The fraction of a second that `time.Parse` accepts where the layout has none. -/
def dropFraction : List Char → List Char
  | c :: d :: text => if (c = '.' || c = ',') && d.isDigit then text.dropWhile Char.isDigit else c :: d :: text
  | text => text

/-- `time.Parse("2006-01-02T15:04:05", text)`, without the time of day. -/
def parseDateTime (text : String) : Option Date := do
  let (d, text) ← scanDate text.toList
  let text ← expect 'T' text
  let (hours, text) ← getnum text
  let text ← expect ':' text
  let (minutes, text) ← digits 2 text
  let text ← expect ':' text
  let (seconds, text) ← digits 2 text
  if hours < 24 ∧ minutes < 60 ∧ seconds < 60 ∧ dropFraction text = [] then checkDay d else none

/-! ## Formatting -/

/-- A number with leading zeros up to a width. -/
def padded : Nat → Nat → List Char
  | 0, _ => []
  | n + 1, value => Nat.digitChar (value / 10 ^ n) :: padded n (value % 10 ^ n)

/-- `Format("2006-01-02")` of a year with four digits. -/
def formatDate (d : Date) : String :=
  String.ofList (padded 4 d.year ++ '-' :: (padded 2 d.month ++ '-' :: padded 2 d.day))

example : (parseDateTime "2024-02-29T9:30:00.5").map formatDate = some "2024-02-29" := by decide +kernel

/-! ## Course status -/

/-- `GetCourseStatus`; `now` is the `time.Now()` it reads and `none` its error on a text that is no date. -/
def getCourseStatus (startDate endDate : String) (now : Time) : Option CourseStatus := do
  let start ← parseDate startDate
  let finish ← parseDate endDate
  if now < start.time then some .upcoming
  else if finish.time < now then some .finished
  else some .active

example : getCourseStatus "2024-02-29" "2024-03-01" (Date.time ⟨2024, 3, 1⟩) = some .active := by decide +kernel

end QrCommandCenter.Domain
