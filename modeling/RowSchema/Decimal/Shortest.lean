import RowSchema.Decimal.Binary64

/-!
# The shortest decimal that reads back

Every decimal between the midpoints to the two neighbours of a binary number rounds to that
number. Of those decimals the one on the coarsest decimal grid has the fewest digits; if the grid
has two, the nearer one is taken, and of two equally near ones the even one.

## Main definitions

* `Scaled` — digits and a power of ten
* `Interval` — a positive number with the reals that round to it
* `shortest` — the chosen decimal

## Implementation notes

If a grid has a point in the interval, then one of the two grid points next to the number itself
lies in it, because the interval is convex and contains the number. So each grid is tested at two
points only. All arithmetic is exact, on natural numbers over a common denominator.
-/

namespace RowSchema.Decimal

/-- The number `digits * 10 ^ exponent`. -/
structure Scaled where
  digits : Nat
  exponent : Int
deriving DecidableEq, Repr

/-- A number and the reals that round to it, in units of `2 ^ exponent`. The ends belong to the
interval iff `closed`. -/
structure Interval where
  low : Nat
  value : Nat
  high : Nat
  exponent : Int
  closed : Bool
deriving Repr

/-- The reals that round to the magnitude of `x`. Halfway cases go to the even significand, so
the ends belong to an even one. -/
def Interval.around (x : Binary64) : Interval where
  low := 4 * x.significand - (if x.atBinade then 1 else 2)
  value := 4 * x.significand
  high := 4 * x.significand + 2
  exponent := x.exponent - 2
  closed := decide (x.significand % 2 = 0)

namespace Interval

/-- The common denominator of the interval in units of `10 ^ k`. -/
def denominator (i : Interval) (k : Int) : Nat :=
  Nat.pow 2 (-i.exponent).toNat * Nat.pow 10 k.toNat

/-- The factor that takes the ends of the interval to numerators in units of `10 ^ k`. -/
def factor (i : Interval) (k : Int) : Nat :=
  Nat.pow 2 i.exponent.toNat * Nat.pow 10 (-k).toNat

/-- Whether `n * 10 ^ k` lies in the interval. -/
def holds (i : Interval) (k : Int) (n : Nat) : Bool :=
  let point := n * i.denominator k
  let low := i.low * i.factor k
  let high := i.high * i.factor k
  if i.closed then decide (low ≤ point) && decide (point ≤ high)
  else decide (low < point) && decide (point < high)

/-- The point of the grid of multiples of `10 ^ k` that stands for the number, if the interval has
one that is not zero. -/
def onGrid (i : Interval) (k : Int) : Option Nat :=
  let den := i.denominator k
  let num := i.value * i.factor k
  let below := num / den
  let above := below + 1
  match decide (0 < below) && i.holds k below, i.holds k above with
  | true, true =>
    match compare (num - below * den) (above * den - num) with
    | .lt => some below
    | .gt => some above
    | .eq => some (if below % 2 = 0 then below else above)
  | true, false => some below
  | false, true => some above
  | false, false => none

/-- A power of ten above the number: 30103 / 100000 is just above the decimal logarithm of 2. -/
def ceiling (i : Interval) : Int :=
  ((i.value.log2 + i.exponent + 1) * 30103).fdiv 100000 + 1

end Interval

/-- The shortest decimal that rounds to the magnitude of the finite number `x`. Seventeen digits
always suffice, and the search starts at most two powers of ten too high. -/
def shortest (x : Binary64) : Scaled :=
  if x.significand = 0 then ⟨0, 0⟩
  else
    let i := Interval.around x
    ((List.range 20).findSome? fun (step : Nat) =>
      let k := i.ceiling - step
      (i.onGrid k).map (⟨·, k⟩)).getD ⟨0, 0⟩

end RowSchema.Decimal
