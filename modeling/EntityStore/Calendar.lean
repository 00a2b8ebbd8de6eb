/-!
# The calendar

An instant counts seconds from the start of 1970 in UTC. From it come the date of the proleptic
Gregorian calendar, the time of day, and the weeks of the year by three reckonings.
-/

namespace EntityStore

/-- Seconds since the start of 1970 and the nanoseconds after them, a billion or more of these within
a leap second. -/
structure Instant where
  seconds : Int
  nanos : Nat := 0
  deriving DecidableEq, Repr

structure Date where
  year : Int
  month : Nat
  day : Nat
  deriving DecidableEq, Repr

def isLeapYear (year : Int) : Bool := year % 4 == 0 && (year % 100 != 0 || year % 400 == 0)

namespace Instant

/-! ## The day -/

def dayNumber (t : Instant) : Int := t.seconds / 86400

/-- The date, reckoned in years that start in March so that the leap day comes last, and in eras of
400 years. -/
def date (t : Instant) : Date :=
  let z := t.dayNumber + 719468
  let era := z / 146097
  let dayOfEra := z % 146097
  let yearOfEra := (dayOfEra - dayOfEra / 1460 + dayOfEra / 36524 - dayOfEra / 146096) / 365
  let dayOfYear := dayOfEra - (365 * yearOfEra + yearOfEra / 4 - yearOfEra / 100)
  let m := (5 * dayOfYear + 2) / 153
  let day := dayOfYear - (153 * m + 2) / 5 + 1
  let month := if m < 10 then m + 3 else m - 9
  let year := yearOfEra + era * 400
  ⟨if month ≤ 2 then year + 1 else year, month.toNat, day.toNat⟩

def daysFromSunday (t : Instant) : Nat := ((t.dayNumber + 4) % 7).toNat

def daysFromMonday (t : Instant) : Nat := ((t.dayNumber + 3) % 7).toNat

def dayOfYear (t : Instant) : Nat :=
  let d := t.date
  let before := [0, 31, 59, 90, 120, 151, 181, 212, 243, 273, 304, 334][d.month - 1]?.getD 0
  before + d.day + if 2 < d.month && isLeapYear d.year then 1 else 0

/-! ## Weeks -/

/-- The week of the year when weeks start on Sunday; the days before the first Sunday are in week
zero. -/
def weekFromSunday (t : Instant) : Nat := (t.dayOfYear + 6 - t.daysFromSunday) / 7

def weekFromMonday (t : Instant) : Nat := (t.dayOfYear + 6 - t.daysFromMonday) / 7

/-- The weeks of a year by the standard reckoning. A year has one more if it starts on a Thursday, or
on a Wednesday and is a leap year; `start` counts from Monday. -/
def weeksInYear (leap : Bool) (start : Nat) : Nat :=
  if start = 3 ∨ (start = 2 ∧ leap = true) then 53 else 52

/-- The year and the week of the standard reckoning: weeks start on Monday and belong to the year of
their Thursday. -/
def isoWeek (t : Instant) : Int × Nat :=
  let year := t.date.year
  let week := (t.dayOfYear + 9 - t.daysFromMonday) / 7
  let start := (t.daysFromMonday + 371 - (t.dayOfYear - 1)) % 7
  if week = 0 then
    let leap := isLeapYear (year - 1)
    (year - 1, weeksInYear leap ((start + 7 - (if leap then 2 else 1)) % 7))
  else if weeksInYear (isLeapYear year) start < week then (year + 1, 1)
  else (year, week)

/-! ## The time of day -/

def secondOfDay (t : Instant) : Nat := (t.seconds % 86400).toNat

def hour (t : Instant) : Nat := t.secondOfDay / 3600

def minute (t : Instant) : Nat := t.secondOfDay / 60 % 60

/-- The second, sixty within a leap second. -/
def second (t : Instant) : Nat := t.secondOfDay % 60 + t.nanos / 1000000000

def nanosecond (t : Instant) : Nat := t.nanos % 1000000000

def hour12 (t : Instant) : Nat := if t.hour % 12 = 0 then 12 else t.hour % 12

end Instant

end EntityStore
