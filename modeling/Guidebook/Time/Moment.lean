/-!
# Moments

A moment is a second of a civil date in the proleptic Gregorian calendar, in
universal time, with its nanoseconds.  A leap second is written as the last
second of a minute with a thousand million nanoseconds or more.  A moment carries
the proof that its date exists, so no two moments stand for one time.
-/

namespace Guidebook

namespace Calendar

/-- A leap year of the Gregorian calendar. -/
def isLeap (year : Int) : Bool :=
  year % 4 == 0 && (year % 100 != 0 || year % 400 == 0)

/-- The number of days of a month. -/
def daysIn (year : Int) (month : Nat) : Nat :=
  match month with
  | 2 => if isLeap year then 29 else 28
  | 4 | 6 | 9 | 11 => 30
  | _ => 31

/-- The first and the last year that a date may have. -/
def firstYear : Int := -262143

@[inherit_doc firstYear]
def lastYear : Int := 262142

end Calendar

/-- A second of a civil date in universal time, with its nanoseconds. -/
structure Moment where
  year : Int
  month : Nat
  day : Nat
  secondOfDay : Nat
  nanosecond : Nat
  year_mem : Calendar.firstYear ≤ year ∧ year ≤ Calendar.lastYear
  month_mem : 1 ≤ month ∧ month ≤ 12
  day_mem : 1 ≤ day ∧ day ≤ Calendar.daysIn year month
  second_lt : secondOfDay < 86400
  nanosecond_lt : nanosecond < 2000000000
  leap_second : 1000000000 ≤ nanosecond → secondOfDay % 60 = 59
  deriving DecidableEq, Repr

namespace Moment

/-- The moment with the given parts, when they make one. -/
def ofParts? (year : Int) (month day secondOfDay nanosecond : Nat) : Option Moment :=
  if year_mem : Calendar.firstYear ≤ year ∧ year ≤ Calendar.lastYear then
    if month_mem : 1 ≤ month ∧ month ≤ 12 then
      if day_mem : 1 ≤ day ∧ day ≤ Calendar.daysIn year month then
        if second_lt : secondOfDay < 86400 then
          if nanosecond_lt : nanosecond < 2000000000 then
            if leap_second : 1000000000 ≤ nanosecond → secondOfDay % 60 = 59 then
              some { year, month, day, secondOfDay, nanosecond, year_mem, month_mem,
                     day_mem, second_lt, nanosecond_lt, leap_second }
            else none
          else none
        else none
      else none
    else none
  else none

@[simp] theorem ofParts?_parts (moment : Moment) :
    ofParts? moment.year moment.month moment.day moment.secondOfDay moment.nanosecond =
      some moment := by
  rw [ofParts?, dif_pos moment.year_mem, dif_pos moment.month_mem,
    dif_pos moment.day_mem, dif_pos moment.second_lt, dif_pos moment.nanosecond_lt,
    dif_pos moment.leap_second]

/-- The date that lies a number of days after the first of January 1970.  Years
are counted from March, in cycles of four centuries, so that a leap day is the
last day of its year. -/
def dateOfDay (day : Int) : Int × Nat × Nat :=
  let shifted := day + 719468
  let cycle := shifted / 146097
  let dayOfCycle := (shifted % 146097).toNat
  let yearOfCycle :=
    (dayOfCycle - dayOfCycle / 1460 + dayOfCycle / 36524 - dayOfCycle / 146096) / 365
  let dayOfYear :=
    dayOfCycle - (365 * yearOfCycle + yearOfCycle / 4 - yearOfCycle / 100)
  let monthFromMarch := (5 * dayOfYear + 2) / 153
  let dayOfMonth := dayOfYear - (153 * monthFromMarch + 2) / 5 + 1
  let month := if monthFromMarch < 10 then monthFromMarch + 3 else monthFromMarch - 9
  let year := Int.ofNat yearOfCycle + cycle * 400 + (if month ≤ 2 then 1 else 0)
  (year, month, dayOfMonth)

/-- The moment a number of seconds after the start of 1970, with nanoseconds. -/
def ofUnix? (seconds : Int) (nanosecond : Nat) : Option Moment :=
  let (year, month, day) := dateOfDay (seconds / 86400)
  ofParts? year month day (seconds % 86400).toNat nanosecond

/-- The start of 1970. -/
def epoch : Moment where
  year := 1970
  month := 1
  day := 1
  secondOfDay := 0
  nanosecond := 0
  year_mem := by decide
  month_mem := by decide
  day_mem := by decide
  second_lt := by decide
  nanosecond_lt := by decide
  leap_second := by decide

instance : Inhabited Moment := ⟨epoch⟩

/-- The parts of the day before a date. -/
def dayBefore (year : Int) (month day : Nat) : Int × Nat × Nat :=
  if 1 < day then (year, month, day - 1)
  else if 1 < month then (year, month - 1, Calendar.daysIn year (month - 1))
  else (year - 1, 12, 31)

/-- The parts of the day after a date. -/
def dayAfter (year : Int) (month day : Nat) : Int × Nat × Nat :=
  if day < Calendar.daysIn year month then (year, month, day + 1)
  else if month < 12 then (year, month + 1, 1)
  else (year + 1, 1, 1)

/-- The moment in universal time of a local time that is `offset` seconds ahead
of it; an offset is shorter than a day. -/
def ofLocal? (year : Int) (month day secondOfDay nanosecond : Nat) (offset : Int) :
    Option Moment := do
  let moment ← ofParts? year month day secondOfDay nanosecond
  let second := Int.ofNat moment.secondOfDay - offset
  if second < 0 then
    let (year, month, day) := dayBefore year month day
    ofParts? year month day (second + 86400).toNat nanosecond
  else if 86400 ≤ second then
    let (year, month, day) := dayAfter year month day
    ofParts? year month day (second - 86400).toNat nanosecond
  else ofParts? year month day second.toNat nanosecond

/-- The hour of the day. -/
def hour (moment : Moment) : Nat := moment.secondOfDay / 3600

/-- The minute of the hour. -/
def minute (moment : Moment) : Nat := moment.secondOfDay / 60 % 60

/-- The second of the minute, 60 in a leap second. -/
def second (moment : Moment) : Nat :=
  moment.secondOfDay % 60 + moment.nanosecond / 1000000000

/-- The nanoseconds of the second. -/
def subsecond (moment : Moment) : Nat := moment.nanosecond % 1000000000

end Moment

end Guidebook
