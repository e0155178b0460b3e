/-!
# Binary floating point numbers of 64 bits

A number of the IEEE 754 binary64 format by its bit pattern, and the integers that the pattern
stands for.

## Main definitions

* `Binary64` — the number, with decidable equality. Zero has two patterns, which are different.
* `Binary64.significand`, `Binary64.exponent` — a finite number has the magnitude
  `significand * 2 ^ exponent`

## Implementation notes

Equality of the machine type is numeric, so it is false for a NaN and true for the two zeros. The
bit pattern is what has to be told apart here, and it is what proofs can compute with.
-/

namespace RowSchema.Decimal

/-- A binary64 number, given by its bits. -/
structure Binary64 where
  bits : UInt64
deriving DecidableEq, Repr, Inhabited

namespace Binary64

/-- The number that a machine float holds. -/
def ofFloat (f : Float) : Binary64 :=
  ⟨f.toBits⟩

/-- The sign bit. -/
def isNegative (x : Binary64) : Bool :=
  decide (Nat.pow 2 63 ≤ x.bits.toNat)

/-- The eleven exponent bits. -/
def exponentField (x : Binary64) : Nat :=
  x.bits.toNat / Nat.pow 2 52 % Nat.pow 2 11

/-- The fifty-two fraction bits. -/
def fractionField (x : Binary64) : Nat :=
  x.bits.toNat % Nat.pow 2 52

/-- The integer significand of a finite number. Subnormal numbers lack the leading one. -/
def significand (x : Binary64) : Nat :=
  if x.exponentField = 0 then x.fractionField else Nat.pow 2 52 + x.fractionField

/-- The power of two that scales the significand of a finite number. -/
def exponent (x : Binary64) : Int :=
  (max x.exponentField 1 : Nat) - 1075

/-- Whether the distance to the next smaller magnitude is half the distance to the next greater
one. That is so at a power of two, unless it is the smallest normal number. -/
def atBinade (x : Binary64) : Bool :=
  decide (x.fractionField = 0) && decide (1 < x.exponentField)

end Binary64

end RowSchema.Decimal
