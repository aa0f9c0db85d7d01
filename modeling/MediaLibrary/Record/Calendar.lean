/-
Dates and times of day.

A moment is a number of seconds since the start of the year 1970, in universal time
and without leap seconds.  Its date is that of the Gregorian calendar, carried on
before its introduction and with a year zero.  Counting years from the first of
March puts the leap day last, so that day, month and year come out of divisions
alone.
-/
import MediaLibrary.Text.Numeral

namespace MediaLibrary.Calendar

/-- A day of the calendar. -/
structure Date where
  year : Int
  month : Nat
  day : Nat

/-- The date of a day counted from the first of January 1970. -/
def dateOfDay (day : Int) : Date :=
  -- days since the first of March of the year zero, split into cycles of 400 years
  let shifted := day + 719468
  let cycle := shifted / 146097
  let inCycle := (shifted % 146097).toNat
  let yearOfCycle := (inCycle - inCycle / 1460 + inCycle / 36524 - inCycle / 146096) / 365
  let inYear := inCycle - (365 * yearOfCycle + yearOfCycle / 4 - yearOfCycle / 100)
  let fromMarch := (5 * inYear + 2) / 153
  let month := if fromMarch < 10 then fromMarch + 3 else fromMarch - 9
  { year := yearOfCycle + cycle * 400 + (if month ≤ 2 then 1 else 0)
    month
    day := inYear - (153 * fromMarch + 2) / 5 + 1 }

/-- A year with four digits at least, and with a sign outside `0` to `9999`. -/
def yearText (year : Int) : String :=
  let digits := Text.padNat 4 year.natAbs
  if year < 0 then s!"-{digits}" else if 9999 < year then s!"+{digits}" else digits

/-- The moments whose date can be told: the years from -262143 to 262142. -/
def isTellable (seconds : Int) : Bool :=
  -8334601228800 ≤ seconds ∧ seconds ≤ 8210266876799

/-- Date and time of a moment, or its number of seconds if it is too far away. -/
def text (seconds : Int) : String :=
  if isTellable seconds then
    let date := dateOfDay (seconds / 86400)
    let inDay := (seconds % 86400).toNat
    let two := Text.padNat 2
    s!"{yearText date.year}-{two date.month}-{two date.day} " ++
      s!"{two (inDay / 3600)}:{two (inDay / 60 % 60)}:{two (inDay % 60)}"
  else toString seconds

example : text 951868799 = "2000-02-29 23:59:59" ∧ text (-62198755200) = "-0001-01-01 00:00:00" := by
  decide +kernel

end MediaLibrary.Calendar
