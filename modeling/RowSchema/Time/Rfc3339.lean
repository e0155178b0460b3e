import RowSchema.Time.Calendar

/-!
# Timestamps in texts

Recognises date and time with an offset in the form of RFC 3339, for instance
`2025-01-01T12:00:00Z`.

## Main definitions

* `isTimestamp` — whether a text is such a timestamp and nothing else

## Implementation notes

Three liberties are taken with the form: a space may separate date and time, a minus sign of the
mathematical kind may open an offset, and any minute may have a second of number 60.
-/

namespace RowSchema.Time

/-- The number of the first `n` characters, if they are decimal digits, and the text after them. -/
def takeNumber (n : Nat) (cs : List Char) : Option (Nat × List Char) :=
  let digits := cs.take n
  if digits.length = n ∧ digits.all (fun c => decide ('0' ≤ c) && decide (c ≤ '9')) then
    some (digits.foldl (fun acc c => acc * 10 + (c.toNat - '0'.toNat)) 0, cs.drop n)
  else none

/-- The text after `c`, if it starts with `c`. -/
def takeChar (c : Char) (cs : List Char) : Option (List Char) :=
  match cs with
  | d :: rest => if d = c then some rest else none
  | [] => none

/-- A date that exists, with a year of four digits. -/
def takeDate (cs : List Char) : Option (List Char) := do
  let (year, cs) ← takeNumber 4 cs
  let cs ← takeChar '-' cs
  let (month, cs) ← takeNumber 2 cs
  let cs ← takeChar '-' cs
  let (day, cs) ← takeNumber 2 cs
  if (CivilDate.mk year month day).isValid then some cs else none

/-- Hour, minute and second. -/
def takeTime (cs : List Char) : Option (List Char) := do
  let (hour, cs) ← takeNumber 2 cs
  let cs ← takeChar ':' cs
  let (minute, cs) ← takeNumber 2 cs
  let cs ← takeChar ':' cs
  let (second, cs) ← takeNumber 2 cs
  if hour ≤ 23 ∧ minute ≤ 59 ∧ second ≤ 60 then some cs else none

/-- A fraction of a second of at least one digit, or none at all. -/
def takeFraction (cs : List Char) : Option (List Char) :=
  match cs with
  | '.' :: rest => do
    let (_, rest) ← takeNumber 1 rest
    some (rest.dropWhile fun c => decide ('0' ≤ c) && decide (c ≤ '9'))
  | _ => some cs

/-- `Z`, or a sign with hours and minutes. -/
def takeOffset (cs : List Char) : Option (List Char) :=
  match cs with
  | [] => none
  | c :: rest =>
    if c = 'Z' ∨ c = 'z' then some rest
    else if c = '+' ∨ c = '-' ∨ c = '−' then do
      let (hour, rest) ← takeNumber 2 rest
      let rest ← takeChar ':' rest
      let (minute, rest) ← takeNumber 2 rest
      if hour ≤ 23 ∧ minute ≤ 59 then some rest else none
    else none

/-- Whether the text is a timestamp. -/
def isTimestamp (s : String) : Bool :=
  let left := do
    let cs ← takeDate s.toList
    let cs ← (takeChar 'T' cs).or ((takeChar 't' cs).or (takeChar ' ' cs))
    let cs ← takeTime cs
    let cs ← takeFraction cs
    takeOffset cs
  left == some []

end RowSchema.Time
