import RowSchema.Schema.Basic

/-!
# Building unions

A union is built from any list of schemas. Unions among them are opened, `never` and repetitions are
dropped, and what is left collapses if it has fewer than two members.

## Main definitions

* `Schema.unionOf` — builds a union
* `Schema.orUndefined`, `Schema.generated` — the two schemas built on it
* `Schema.admitsAbsence` — whether a union offers `undefined` or `null`
-/

namespace RowSchema.Schema

/-- The alternatives that a schema contributes to a union. -/
def alternatives : Schema → List Schema
  | .union members => members
  | s => [s]

@[simp]
theorem alternatives_atom (a : Atom) : alternatives (.atom a) = [.atom a] := rfl

@[simp]
theorem alternatives_union (members : List Schema) : alternatives (.union members) = members := rfl

/-- The members of a list, each at its first place only. -/
def distinct : List Schema → List Schema
  | [] => []
  | s :: rest => s :: (distinct rest).filter (· ≠ s)

theorem mem_distinct {s : Schema} {ms : List Schema} : s ∈ distinct ms ↔ s ∈ ms := by
  induction ms with
  | nil => simp [distinct]
  | cons m rest ih =>
    by_cases h : s = m <;> simp [distinct, ih, h]

/-- The union of a list of alternatives: none is `never`, and one stands for itself. -/
def collapse : List Schema → Schema
  | [] => .never
  | [s] => s
  | members => .union members

/-- The union of any schemas. -/
def unionOf (members : List Schema) : Schema :=
  collapse (distinct ((members.flatMap alternatives).filter (!·.isNever)))

/-- The schema or an absent value. -/
def orUndefined (s : Schema) : Schema :=
  unionOf [s, .undefined]

/-- A column that the store can fill in: it may be left out on insertion. -/
def generated (s : Schema) : Schema :=
  .column s s.orUndefined s

/-- Whether the schema is a union with `undefined` or `null` among its members. -/
def admitsAbsence : Schema → Bool
  | .union members => members.any fun m => decide (m = .atom .undefined) || decide (m = .atom .null)
  | _ => false

end RowSchema.Schema
