import RowSchema.Decimal.Shortest

/-!
# Layout of decimals

A decimal is written positionally while its leading digit is not too far from the point, and in
scientific notation otherwise.

## Main definitions

* `Layout` — the range of positional writing
* `Layout.render` — the text of a number
-/

namespace RowSchema.Decimal

/-- Where positional writing ends: the leading digit may stand for `10 ^ least` to
`10 ^ greatest`. -/
structure Layout where
  least : Int
  greatest : Int
deriving Repr, DecidableEq

/-- `n` zeros. -/
def zeros (n : Nat) : String :=
  String.ofList (List.replicate n '0')

/-- Positional notation. There is always a point with a digit on either side of it. -/
def positional (d : Scaled) : String :=
  let digits := (toString d.digits).toList
  let whole := (digits.length + d.exponent).toNat
  if 0 ≤ d.exponent then
    String.ofList digits ++ zeros d.exponent.toNat ++ ".0"
  else if 0 < whole then
    String.ofList (digits.take whole) ++ "." ++ String.ofList (digits.drop whole)
  else
    "0." ++ zeros (-d.exponent - digits.length).toNat ++ String.ofList digits

/-- Scientific notation with one digit before the point, no point after a lone digit, and the sign
of the exponent always written. -/
def scientific (d : Scaled) : String :=
  let digits := (toString d.digits).toList
  let exponent := d.exponent + digits.length - 1
  let mantissa :=
    match digits with
    | lead :: [] => String.ofList [lead]
    | lead :: rest => String.ofList (lead :: '.' :: rest)
    | [] => ""
  let sign := if exponent < 0 then "-" else "+"
  mantissa ++ "e" ++ sign ++ toString exponent.natAbs

/-- The shortest text of the finite number `x` that reads back as `x`. -/
def Layout.render (n : Layout) (x : Binary64) : String :=
  let d := shortest x
  let leading := d.exponent + (toString d.digits).length - 1
  let magnitude :=
    if n.least ≤ leading ∧ leading ≤ n.greatest then positional d else scientific d
  if x.isNegative then "-" ++ magnitude else magnitude

end RowSchema.Decimal
