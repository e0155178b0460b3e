import Mathlib.Data.List.Nodup
import RowSchema.Schema.Union

/-!
# The members of a built union

A union is built in two steps. First comes the list of its members: the unions among the given
schemas are opened, `never` is dropped, and every member stays at its first place only. Then the
list is collapsed. This module treats the list. What is said of unions afterwards follows from what
is said of lists without repetitions.

## When a union can be opened again

Opening the union that was built of a list gives back the list, with one exception. A single member
stands for itself, and if it is a union it is opened as well. That can happen only if a given union
has a union among its own members, because no more than one level is opened. Unions that were built
have none, so for them the order in which unions are nested does not matter. With `undefined` among
the members the exception cannot occur at all: a single member is then `undefined` itself.

## Main definitions

* `Schema.isUnion` — whether a schema is a union
* `Schema.flattened` — the members before repetitions are dropped

## Main results

* `Schema.distinct_append`, `distinct_append_distinct` — repetitions are dropped in any order
* `Schema.unionOf_eq_union` — when a union is built as it would be written down
* `Schema.flattened_unionOf` — a built union is opened to its members
* `Schema.unionOf_nested` — a union among the members may be built first
* `Schema.orUndefined_eq_or`, `orUndefined_orUndefined` — any schema beside `undefined`
-/

namespace RowSchema.Schema

variable {m s : Schema} {ms as bs cs : List Schema}

/-! ### Lists without repetitions -/

theorem nodup_distinct (ms : List Schema) : (distinct ms).Nodup := by
  induction ms with
  | nil => exact List.nodup_nil
  | cons m ms ih =>
    rw [distinct, List.nodup_cons]
    exact ⟨fun h => by simpa using List.of_mem_filter h, ih.filter _⟩

theorem distinct_eq_self (h : ms.Nodup) : distinct ms = ms := by
  induction ms with
  | nil => rfl
  | cons m ms ih =>
    obtain ⟨hm, hms⟩ := List.nodup_cons.mp h
    rw [distinct, ih hms, List.filter_eq_self.mpr]
    intro m' hm'
    simpa using ne_of_mem_of_not_mem hm' hm

/-- Of a second list, what is new is added. -/
theorem distinct_append (as bs : List Schema) :
    distinct (as ++ bs) = distinct as ++ (distinct bs).filter (· ∉ as) := by
  induction as with
  | nil => simp [distinct]
  | cons a as ih =>
    rw [List.cons_append, distinct, distinct, ih, List.filter_append, List.filter_filter,
      List.cons_append]
    simp only [List.mem_cons, not_or, Bool.decide_and]

/-- Repetitions may be dropped from any part of a list beforehand. -/
theorem distinct_append_distinct (as bs cs : List Schema) :
    distinct (as ++ distinct bs ++ cs) = distinct (as ++ bs ++ cs) := by
  have hinner : distinct (distinct bs ++ cs) = distinct (bs ++ cs) := by
    rw [distinct_append, distinct_append, distinct_eq_self (nodup_distinct bs)]
    simp only [mem_distinct]
  rw [List.append_assoc, List.append_assoc, distinct_append, distinct_append as, hinner]

/-! ### The members -/

/-- Whether the schema is a union. -/
def isUnion : Schema → Bool
  | .union _ => true
  | _ => false

theorem alternatives_of_isUnion_eq_false (h : s.isUnion = false) : s.alternatives = [s] := by
  cases s with
  | union members => cases h
  | _ => rfl

/-- The members of a union of these schemas, before repetitions are dropped. -/
def flattened (ms : List Schema) : List Schema :=
  (ms.flatMap alternatives).filter (!·.isNever)

theorem unionOf_eq_collapse (ms : List Schema) : unionOf ms = collapse (distinct (flattened ms)) :=
  rfl

theorem flattened_append (as bs : List Schema) :
    flattened (as ++ bs) = flattened as ++ flattened bs := by
  rw [flattened, List.flatMap_append, List.filter_append]
  rfl

theorem mem_flattened : m ∈ flattened ms ↔ ∃ s ∈ ms, m ∈ s.alternatives ∧ m ≠ .never := by
  rw [flattened, List.mem_filter, List.mem_flatMap, Bool.not_eq_true', isNever_eq_false_iff]
  constructor
  · rintro ⟨⟨s, hs, hm⟩, hnever⟩
    exact ⟨s, hs, hm, hnever⟩
  · rintro ⟨s, hs, hm, hnever⟩
    exact ⟨⟨s, hs, hm⟩, hnever⟩

/-- Members that need neither be opened nor dropped stay as they are. -/
theorem flattened_eq_self (h : ∀ m ∈ ms, m ≠ .never ∧ m.isUnion = false) : flattened ms = ms := by
  have hopened : ms.flatMap alternatives = ms := by
    calc ms.flatMap alternatives = ms.flatMap ([·]) :=
          List.flatMap_congr fun m hm => alternatives_of_isUnion_eq_false (h m hm).2
      _ = ms := List.flatMap_singleton' ms
  rw [flattened, hopened, List.filter_eq_self]
  intro m hm
  simpa using (h m hm).1

/-- A union whose members need no change is built as it would be written down. -/
theorem unionOf_eq_union (hlength : 2 ≤ ms.length) (hdistinct : ms.Nodup)
    (hplain : ∀ m ∈ ms, m ≠ .never ∧ m.isUnion = false) : unionOf ms = .union ms := by
  rw [unionOf_eq_collapse, flattened_eq_self hplain, distinct_eq_self hdistinct]
  match ms, hlength with
  | _ :: _ :: _, _ => rfl

/-- A collapsed list is opened again, unless it is a single union. -/
theorem flattened_collapse (hnever : Schema.never ∉ ms)
    (hone : ∀ m, ms = [m] → m.isUnion = false) : flattened [collapse ms] = ms := by
  have hkept : ms.filter (!·.isNever) = ms := by
    refine List.filter_eq_self.mpr fun m hm => ?_
    simpa using ne_of_mem_of_not_mem hm hnever
  have hopened : (collapse ms).alternatives.filter (!·.isNever) = ms := by
    match ms, hone, hkept with
    | [], _, _ => rfl
    | [m], hone, hkept =>
      rw [collapse, alternatives_of_isUnion_eq_false (hone m rfl)]
      exact hkept
    | _ :: _ :: _, _, hkept => exact hkept
  rw [flattened, List.flatMap_singleton, hopened]

/-- **Opening a built union.** Its members are the given ones without repetitions, unless a single
one is left and that is a union. -/
theorem flattened_unionOf (hone : ∀ m, distinct (flattened ms) = [m] → m.isUnion = false) :
    flattened [unionOf ms] = distinct (flattened ms) := by
  refine flattened_collapse (fun h => ?_) hone
  obtain ⟨s, -, -, hnever⟩ := mem_flattened.mp (mem_distinct.mp h)
  exact hnever rfl

/-- **Nesting.** Some of the members may be united first, if opening these leaves no union. -/
theorem unionOf_nested (h : ∀ m ∈ flattened bs, m.isUnion = false) :
    unionOf (as ++ [unionOf bs] ++ cs) = unionOf (as ++ bs ++ cs) := by
  have hbuilt : flattened [unionOf bs] = distinct (flattened bs) := by
    refine flattened_unionOf fun m hm => h m (mem_distinct.mp ?_)
    rw [hm]
    exact List.mem_singleton_self m
  rw [unionOf_eq_collapse, unionOf_eq_collapse (as ++ bs ++ cs)]
  simp only [flattened_append, hbuilt, distinct_append_distinct]

/-! ### Beside `undefined` -/

theorem undefined_mem_flattened (s : Schema) : .undefined ∈ flattened [s, .undefined] :=
  mem_flattened.mpr ⟨.undefined, by simp, by simp, nofun⟩

/-- Beside `undefined` any schema is `undefined` alone or a union that has it. -/
theorem orUndefined_eq_or (s : Schema) :
    s.orUndefined = .undefined ∨
      ∃ members, s.orUndefined = .union members ∧ .undefined ∈ members := by
  have hmem := mem_distinct.mpr (undefined_mem_flattened s)
  rw [orUndefined, unionOf_eq_collapse]
  match h : distinct (flattened [s, .undefined]) with
  | [] => simp [h] at hmem
  | [m] =>
    rw [h, List.mem_singleton] at hmem
    exact Or.inl hmem.symm
  | m :: m' :: rest => exact Or.inr ⟨m :: m' :: rest, rfl, h ▸ hmem⟩

theorem orUndefined_ne_never (s : Schema) : s.orUndefined ≠ .never := by
  rcases orUndefined_eq_or s with h | ⟨members, h, -⟩ <;> simp [h]

theorem isColumn_orUndefined (s : Schema) : s.orUndefined.isColumn = false := by
  rcases orUndefined_eq_or s with h | ⟨members, h, -⟩ <;> rw [h] <;> rfl

/-- `undefined` is added once, to any schema. -/
theorem orUndefined_orUndefined (s : Schema) : s.orUndefined.orUndefined = s.orUndefined := by
  have hmem := mem_distinct.mpr (undefined_mem_flattened s)
  have hopened : flattened [s.orUndefined] = distinct (flattened [s, .undefined]) := by
    refine flattened_unionOf fun m hm => ?_
    rw [hm, List.mem_singleton] at hmem
    rw [← hmem]
    rfl
  have hagain : distinct (flattened [s.orUndefined, .undefined]) =
      distinct (flattened [s, .undefined]) := by
    calc distinct (flattened [s.orUndefined, .undefined])
        = distinct (distinct (flattened [s, .undefined]) ++ [.undefined]) := by
          rw [← hopened]
          exact congrArg distinct (flattened_append [s.orUndefined] [.undefined])
      _ = distinct (flattened [s, .undefined]) := by
          rw [distinct_append, distinct_eq_self (nodup_distinct _)]
          simp [distinct, hmem]
  rw [orUndefined, unionOf_eq_collapse, hagain]
  rfl

end RowSchema.Schema
