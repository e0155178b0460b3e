import RowSchema.Text.Lowercase

/-!
# The order of names

Names are ordered without regard to case. Names that differ in nothing but case are ordered by
their code points, so that only equal names tie.

## Main definitions

* `compareNames` — the order
* `sortByName` — stable sorting by a name
-/

namespace RowSchema

/-- Compares lower-cased names first and the names themselves second. -/
def compareNames (a b : String) : Ordering :=
  (compare (Text.lower a) (Text.lower b)).then (compare a b)

/-- Sorts by the name of each element and keeps the order of elements with one name. -/
def sortByName {α : Type} (name : α → String) (xs : List α) : List α :=
  xs.mergeSort fun a b => (compareNames (name a) (name b)).isLE

theorem compareNames_eq_iff {a b : String} : compareNames a b = .eq ↔ a = b := by
  constructor
  · intro h
    rw [compareNames, Ordering.then_eq_eq] at h
    exact Std.LawfulEqOrd.eq_of_compare h.2
  · rintro rfl
    simp [compareNames, Std.ReflOrd.compare_self]

theorem sortByName_perm {α : Type} (name : α → String) (xs : List α) :
    (sortByName name xs).Perm xs :=
  List.mergeSort_perm ..

end RowSchema
