/-!
# The Gregorian calendar

Years count in the proleptic Gregorian calendar, so there is a year zero and it is a leap year.

## Main definitions

* `isLeapYear`, `daysInMonth` — the lengths of years and months
* `CivilDate.ofDays` — the date a number of days after 1 January 1970

## Implementation notes

`CivilDate.ofDays` counts in eras of 400 years and lets each year begin in March, which puts the
leap day at the end of its year.
-/

namespace RowSchema.Time

/-- Every fourth year, without three of the four centuries. -/
def isLeapYear (year : Int) : Bool :=
  decide (year % 4 = 0) && (decide (year % 100 ≠ 0) || decide (year % 400 = 0))

/-- The number of days of a month, zero if there is no such month. -/
def daysInMonth (year : Int) (month : Nat) : Nat :=
  match month with
  | 2 => if isLeapYear year then 29 else 28
  | 4 | 6 | 9 | 11 => 30
  | 1 | 3 | 5 | 7 | 8 | 10 | 12 => 31
  | _ => 0

/-- A date of the calendar. -/
structure CivilDate where
  year : Int
  month : Nat
  day : Nat
deriving DecidableEq, Repr

/-- Whether the date exists. -/
def CivilDate.isValid (d : CivilDate) : Bool :=
  decide (1 ≤ d.day) && decide (d.day ≤ daysInMonth d.year d.month)

/-- The date `days` days after 1 January 1970. -/
def CivilDate.ofDays (days : Int) : CivilDate :=
  let sinceMarch := days + 719468
  let era := sinceMarch.fdiv 146097
  let dayOfEra := (sinceMarch - era * 146097).toNat
  let yearOfEra := (dayOfEra - dayOfEra / 1460 + dayOfEra / 36524 - dayOfEra / 146096) / 365
  let dayOfYear := dayOfEra - (365 * yearOfEra + yearOfEra / 4 - yearOfEra / 100)
  let fromMarch := (5 * dayOfYear + 2) / 153
  let day := dayOfYear - (153 * fromMarch + 2) / 5 + 1
  let month := if fromMarch < 10 then fromMarch + 3 else fromMarch - 9
  let year := yearOfEra + era * 400 + (if month ≤ 2 then 1 else 0)
  ⟨year, month, day⟩

end RowSchema.Time
