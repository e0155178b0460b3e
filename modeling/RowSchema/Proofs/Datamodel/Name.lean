import Mathlib.Data.List.Nodup
import RowSchema.Datamodel.Name

/-!
# Sorting by name

Names are compared in lower case first and as they are second. The second comparison decides
wherever the first one ties, so the order is total and nothing ties in it but equal names. A list
without repeated names has therefore one sorted form, whatever order it was given in.

## Main results

* `compareNames` is transitive and oriented, as an instance of `Std.TransCmp`
* `sortByName_eq_of_perm` — the sorted form of a list does not depend on its order
* `map_sortByName` — sorting and changing elements under their names commute
-/

namespace RowSchema

variable {α β : Type} {name : α → String} {xs ys : List α}

/-- The order is the lexicographic one of two orders. -/
instance : Std.TransCmp compareNames :=
  inferInstanceAs (Std.TransCmp (compareLex (compareOn Text.lower) compare))

theorem eq_of_isLE_compareNames {a b : String} (hab : (compareNames a b).isLE)
    (hba : (compareNames b a).isLE) : a = b :=
  compareNames_eq_iff.mp (Std.OrientedCmp.isLE_antisymm hab hba)

theorem isLE_compareNames_total (a b : String) :
    ((compareNames a b).isLE || (compareNames b a).isLE) = true := by
  have hswap : compareNames b a = (compareNames a b).swap := Std.OrientedCmp.eq_swap
  rw [hswap]
  cases compareNames a b <;> rfl

theorem pairwise_sortByName (name : α → String) (xs : List α) :
    (sortByName name xs).Pairwise fun a b => (compareNames (name a) (name b)).isLE := by
  refine List.pairwise_mergeSort (fun a b c hab hbc => ?_) (fun a b => ?_) xs
  · exact Std.TransCmp.isLE_trans hab hbc
  · exact isLE_compareNames_total (name a) (name b)

theorem mem_sortByName {x : α} : x ∈ sortByName name xs ↔ x ∈ xs :=
  (sortByName_perm name xs).mem_iff

/-- **A list without repeated names has one sorted form.** -/
theorem sortByName_eq_of_perm (h : xs.Perm ys) (hnames : (xs.map name).Nodup) :
    sortByName name xs = sortByName name ys := by
  refine List.Perm.eq_of_pairwise (fun a b ha hb hab hba => ?_) (pairwise_sortByName name xs)
    (pairwise_sortByName name ys)
    ((sortByName_perm name xs).trans (h.trans (sortByName_perm name ys).symm))
  have hax : a ∈ xs := mem_sortByName.mp ha
  have hbx : b ∈ xs := h.mem_iff.mpr (mem_sortByName.mp hb)
  exact List.inj_on_of_nodup_map hnames hax hbx (eq_of_isLE_compareNames hab hba)

theorem sortByName_sortByName (name : α → String) (xs : List α) :
    sortByName name (sortByName name xs) = sortByName name xs :=
  List.mergeSort_of_pairwise (pairwise_sortByName name xs)

theorem map_sortByName {name' : β → String} (f : α → β) (hname : ∀ x, name' (f x) = name x)
    (xs : List α) : (sortByName name xs).map f = sortByName name' (xs.map f) :=
  List.map_mergeSort fun a _ b _ => by rw [hname, hname]

end RowSchema
