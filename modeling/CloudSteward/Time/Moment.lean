/-!
# Moments of the wall clock

A `Moment` is a date and a time of day in universal time, down to nanoseconds.
A leap second is the last second of its minute with a full second of
nanoseconds on top.  Years reach far beyond four digits on both sides.
-/

namespace CloudSteward

namespace Time

def isLeapYear (year : Int) : Bool :=
  year % 4 = 0 && (year % 100 ≠ 0 || year % 400 = 0)

def daysInMonth (year : Int) (month : Nat) : Nat :=
  if month = 2 then if isLeapYear year then 29 else 28
  else if month = 4 ∨ month = 6 ∨ month = 9 ∨ month = 11 then 30
  else 31

/-- The first and the last year of the calendar. -/
def firstYear : Int := -262143

def lastYear : Int := 262142

/-- A day of the calendar. -/
def ValidDate (year : Int) (month day : Nat) : Prop :=
  firstYear ≤ year ∧ year ≤ lastYear ∧ 1 ≤ month ∧ month ≤ 12 ∧
    1 ≤ day ∧ day ≤ daysInMonth year month

instance (year : Int) (month day : Nat) : Decidable (ValidDate year month day) :=
  inferInstanceAs (Decidable (_ ∧ _))

def nanosPerSecond : Nat := 1000000000

/-- A time of day; only the last second of a minute may be a leap second. -/
def ValidTime (hour minute second nanos : Nat) : Prop :=
  hour < 24 ∧ minute < 60 ∧ second < 60 ∧
    (nanos < nanosPerSecond ∨ second = 59 ∧ nanos < 2 * nanosPerSecond)

instance (hour minute second nanos : Nat) : Decidable (ValidTime hour minute second nanos) :=
  inferInstanceAs (Decidable (_ ∧ _))

end Time

/-- A date and time of day in universal time. -/
structure Moment where
  year : Int
  month : Nat
  day : Nat
  hour : Nat
  minute : Nat
  second : Nat
  nanos : Nat
  date_valid : Time.ValidDate year month day := by decide
  time_valid : Time.ValidTime hour minute second nanos := by decide
deriving DecidableEq, Repr

namespace Moment

open Time

/-- The moment with the given fields, if there is one. -/
def ofFields? (year : Int) (month day hour minute second nanos : Nat) : Option Moment :=
  if date_valid : ValidDate year month day then
    if time_valid : ValidTime hour minute second nanos then
      some { year, month, day, hour, minute, second, nanos, date_valid, time_valid }
    else none
  else none

/-- The start of a day. -/
def startOfDay (year : Int) (month day : Nat)
    (date_valid : ValidDate year month day := by decide) : Moment where
  year
  month
  day
  hour := 0
  minute := 0
  second := 0
  nanos := 0
  date_valid

/-- The start of the year 1970. -/
def epoch : Moment :=
  .startOfDay 1970 1 1

instance : Inhabited Moment := ⟨epoch⟩

/-- Goes on from the first day of a month by a number of days; `fuel` bounds the
number of months. -/
private def dateOfDays (year : Int) (month days : Nat) : Nat → Int × Nat × Nat
  | 0 => (year, month, days + 1)
  | fuel + 1 =>
      let length := daysInMonth year month
      if days < length then (year, month, days + 1)
      else if month = 12 then dateOfDays (year + 1) 1 (days - length) fuel
      else dateOfDays year (month + 1) (days - length) fuel

/-- The moment that lies a number of seconds and nanoseconds after the start of
1970. -/
def ofUnix (seconds nanos : Nat) : Moment :=
  let days := seconds / 86400
  let within := seconds % 86400
  -- four hundred years have 146097 days, so whole ones can be skipped
  let (year, month, day) :=
    dateOfDays (1970 + 400 * (days / 146097 : Nat)) 1 (days % 146097) 4800
  (ofFields? year month day (within / 3600) (within / 60 % 60) (within % 60) nanos).getD epoch

/-! ## Shifting by a day -/

/-- The day after a date. -/
def dayAfter (year : Int) (month day : Nat) : Int × Nat × Nat :=
  if day < daysInMonth year month then (year, month, day + 1)
  else if month < 12 then (year, month + 1, 1)
  else (year + 1, 1, 1)

/-- The day before a date. -/
def dayBefore (year : Int) (month day : Nat) : Int × Nat × Nat :=
  if 1 < day then (year, month, day - 1)
  else if 1 < month then (year, month - 1, daysInMonth year (month - 1))
  else (year - 1, 12, 31)

/-- The moment that a clock shows which is `minutes` ahead of this one's clock, if
the calendar reaches that far.  The shift is less than a day. -/
def aheadBy? (moment : Moment) (minutes : Int) : Option Moment :=
  let total : Int := moment.hour * 60 + moment.minute + minutes
  let (year, month, day) :=
    if total < 0 then dayBefore moment.year moment.month moment.day
    else if total < 1440 then (moment.year, moment.month, moment.day)
    else dayAfter moment.year moment.month moment.day
  let within := (total % 1440).toNat
  ofFields? year month day (within / 60) (within % 60) moment.second moment.nanos

end Moment

end CloudSteward
