import CloudSteward.Time.Moment

/-!
# Writing moments

A moment is written as a date and a time of day with a `T` between them and a
`Z` at the end.  The fraction of the second has three, six or nine digits, as few
as show it exactly, and is left out if it is zero.  A leap second shows as `60`.
Years beyond four digits, and those before the year zero, carry a sign.
-/

namespace CloudSteward.Moment

open Time

/-- A numeral with at least `width` digits. -/
def paddedDigits (width value : Nat) : List Char :=
  let digits := Nat.toDigits 10 value
  List.replicate (width - digits.length) '0' ++ digits

def yearChars (year : Int) : List Char :=
  if 0 ≤ year ∧ year ≤ 9999 then paddedDigits 4 year.toNat
  else (if year < 0 then '-' else '+') :: paddedDigits 4 year.natAbs

/-- The fraction of a second, with its point. -/
def fractionChars (nanos : Nat) : List Char :=
  if nanos = 0 then []
  else if nanos % 1000000 = 0 then '.' :: paddedDigits 3 (nanos / 1000000)
  else if nanos % 1000 = 0 then '.' :: paddedDigits 6 (nanos / 1000)
  else '.' :: paddedDigits 9 nanos

def chars (moment : Moment) : List Char :=
  let isLeap := nanosPerSecond ≤ moment.nanos
  let second := if isLeap then moment.second + 1 else moment.second
  let nanos := if isLeap then moment.nanos - nanosPerSecond else moment.nanos
  yearChars moment.year ++ '-' :: paddedDigits 2 moment.month ++ '-' :: paddedDigits 2 moment.day ++
    'T' :: paddedDigits 2 moment.hour ++ ':' :: paddedDigits 2 moment.minute ++
    ':' :: paddedDigits 2 second ++ fractionChars nanos ++ ['Z']

/-- The text of a moment. -/
def text (moment : Moment) : String :=
  String.ofList moment.chars

end CloudSteward.Moment
