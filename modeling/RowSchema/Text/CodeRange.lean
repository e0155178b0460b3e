/-!
# Sets of characters as code point ranges

A property of characters is stored as the list of its maximal runs of code points.

## Main definitions

* `CodeRange` — an inclusive run of code points
* `CodeRange.covers` — membership in a list of runs

## Implementation notes

The tables built on this type are looked up by a linear search. They are consulted once per
character of a name or of a quoted text, which are short; a search tree would only make the
tables harder to read.
-/

namespace RowSchema.Text

/-- The code points from `first` to `last`, both included. -/
structure CodeRange where
  first : Nat
  last : Nat
deriving Repr, DecidableEq

namespace CodeRange

/-- Whether the code point of `c` lies in the run. -/
def contains (r : CodeRange) (c : Char) : Bool :=
  decide (r.first ≤ c.toNat) && decide (c.toNat ≤ r.last)

/-- Whether one of `runs` contains `c`. -/
def covers (runs : List CodeRange) (c : Char) : Bool :=
  runs.any (·.contains c)

/-- The runs whose ends are listed in pairs: first, last, first, last, and so on. -/
def ofEnds : List Nat → List CodeRange
  | first :: last :: rest => ⟨first, last⟩ :: ofEnds rest
  | _ => []

end CodeRange

end RowSchema.Text
