import RowSchema.Schema.Basic
import RowSchema.Time.Rfc3339
import RowSchema.Uuid

/-!
# The values of an atom

## Main definitions

* `Schema.Atom.accepts` — whether a value belongs to an atom
* `Schema.admits` — whether an atom of a kind is reachable without entering an array or a record
* `Schema.omitsNull` — whether a record leaves a field out for which the value is `null`
-/

namespace RowSchema.Schema

/-- Decimal digits, perhaps after a minus sign. -/
def isDecimalInteger (s : String) : Bool :=
  let digits := match s.toList with
    | '-' :: rest => rest
    | cs => cs
  !digits.isEmpty && digits.all fun c => decide ('0' ≤ c) && decide (c ≤ '9')

/-- An integer from 0 to 255. -/
def isByte (j : Json) : Bool :=
  j.int?.any fun n => decide (0 ≤ n) && decide (n ≤ 255)

/-- Whether the value belongs to the atom. -/
def Atom.accepts : Atom → Json → Bool
  | .never, _ => false
  | .unknown, _ => true
  | .undefined, j => j.isNull
  | .null, j => j.isNull
  | .string, j => j.string?.isSome
  | .number, .number _ => true
  | .number, _ => false
  | .bigint, .number (.int _) => true
  | .bigint, j => j.string?.any isDecimalInteger
  | .boolean, .bool _ => true
  | .boolean, _ => false
  | .date, j => j.string?.any Time.isTimestamp
  | .uuid, j => j.string?.any isUuid
  | .uint8Array, j => j.array?.any (·.all isByte)
  | .literal values, j => j.string?.any (decide <| · ∈ values)

mutual

/-- Whether the schema, a member of it or the selected side of it is an atom for which `leaf`
holds. -/
def admits (leaf : Atom → Bool) : Schema → Bool
  | .atom a => leaf a
  | .union members => anyAdmits leaf members
  | .column select _ _ => select.admits leaf
  | .array _ => false
  | .struct _ => false

/-- Whether one of the schemas admits such an atom. -/
def anyAdmits (leaf : Atom → Bool) : List Schema → Bool
  | [] => false
  | m :: ms => m.admits leaf || anyAdmits leaf ms

end

/-- There is no `undefined` among JSON values. Where a field admits it but not `null` itself, a
`null` says that the field is absent. -/
def omitsNull (s : Schema) : Bool :=
  s.admits (decide <| · = .undefined)
    && !s.admits fun a => decide (a = .null) || decide (a = .unknown)

end RowSchema.Schema
