import RowSchema.Time.Calendar

/-!
# Instants and how they are stamped

A point in time, and its text in universal time with milliseconds.

## Main definitions

* `Instant` — seconds since 1 January 1970 and nanoseconds within the second
* `Instant.stamp` — the text
-/

namespace RowSchema.Time

/-- A point in time. Nanoseconds of a thousand million and more lie in a leap second, which is
counted into the second before it. -/
structure Instant where
  seconds : Int
  nanoseconds : Nat
deriving DecidableEq, Repr

/-- `n` with zeros in front up to `width` digits. -/
def padded (width n : Nat) : String :=
  let digits := (toString n).toList
  String.ofList (List.replicate (width - digits.length) '0' ++ digits)

/-- A year in four digits. Outside the years 0 to 9999 it carries a sign. -/
def yearText (year : Int) : String :=
  if 0 ≤ year ∧ year ≤ 9999 then padded 4 year.toNat
  else (if year < 0 then "-" else "+") ++ padded 4 year.natAbs

/-- Date and time in universal time. Milliseconds are cut off, not rounded. -/
def Instant.stamp (t : Instant) : String :=
  let days := t.seconds.fdiv 86400
  let ofDay := (t.seconds - days * 86400).toNat
  let date := CivilDate.ofDays days
  let leap := t.nanoseconds / 1000000000
  let second := ofDay % 60 + leap
  let millisecond := t.nanoseconds % 1000000000 / 1000000
  yearText date.year ++ "-" ++ padded 2 date.month ++ "-" ++ padded 2 date.day ++ "T"
    ++ padded 2 (ofDay / 3600) ++ ":" ++ padded 2 (ofDay / 60 % 60) ++ ":" ++ padded 2 second
    ++ "." ++ padded 3 millisecond ++ "Z"

end RowSchema.Time
