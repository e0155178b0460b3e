import Mathlib.Data.List.Basic
import RowSchema.Store.FileTree

/-!
# Where paths lead

A path leads to a place that can be told from its text and the working directory alone, as long as
the walk does not fail: the tree only decides whether it does. Everything that a request for
directories makes lies on the way to that place.

## Main definitions

* `Place.along` — the place at the end of some steps
* `Place.resolve` — the place that a path leads to
* `IsFileName` — names that are steps of their own in a path

## Main results

* `Place.resolve_joinPath` — a name in a directory leads into the place of the directory
* `FileTree.enter_eq` — a walk that does not fail ends where its steps lead
* `FileTree.node?_makeDirs` — making directories adds directories on the way, and changes nothing
  else, whether it fails or not
-/

namespace RowSchema

namespace Place

/-- The place one step on. -/
def step (p : Place) (name : String) : Place :=
  if name = "." then p else if name = ".." then p.above else p.inside name

/-- The place at the end of some steps. -/
def along (p : Place) (steps : List String) : Place :=
  steps.foldl step p

/-- The place that a path leads to if the working directory is `home`. -/
def resolve (home : Place) (path : String) : Place :=
  (home.startOf path).along (pathSteps path)

/-- Whether the steps pass a place, the one that they lead to included. -/
def Passes (p : Place) (steps : List String) (x : Place) : Prop :=
  ∃ pre, pre <+: steps ∧ x = p.along pre

theorem step_name {name : String} (hhere : name ≠ ".") (habove : name ≠ "..") (p : Place) :
    p.step name = p.inside name := by
  rw [step, if_neg hhere, if_neg habove]

@[simp]
theorem along_nil (p : Place) : p.along [] = p := rfl

theorem along_cons (p : Place) (name : String) (steps : List String) :
    p.along (name :: steps) = (p.step name).along steps := rfl

theorem along_append (p : Place) (steps others : List String) :
    p.along (steps ++ others) = (p.along steps).along others :=
  List.foldl_append

theorem Passes.cons {p q x : Place} {name : String} {steps : List String} (h : q.Passes steps x)
    (hstep : p.step name = q) : p.Passes (name :: steps) x := by
  obtain ⟨pre, hpre, rfl⟩ := h
  exact ⟨name :: pre, (List.prefix_cons_inj name).2 hpre, by rw [along_cons, hstep]⟩

theorem inside_inj {p : Place} {name other : String} :
    p.inside name = p.inside other ↔ name = other := by
  simp [inside]

end Place

/-! ### Steps of a path -/

theorem splitAt_ne_nil (c : Char) (cs : List Char) : splitAt c cs ≠ [] := by
  fun_induction splitAt c cs <;> simp

theorem splitAt_append_cons (c : Char) (cs ds : List Char) :
    splitAt c (cs ++ c :: ds) = splitAt c cs ++ splitAt c ds := by
  induction cs with
  | nil => simp [splitAt]
  | cons d rest ih =>
    rw [List.cons_append, splitAt, splitAt, ih]
    cases hrest : splitAt c rest with
    | nil => exact absurd hrest (splitAt_ne_nil c rest)
    | cons part parts => split <;> rfl

theorem splitAt_of_not_mem {c : Char} {cs : List Char} (h : c ∉ cs) : splitAt c cs = [cs] := by
  induction cs with
  | nil => rfl
  | cons d rest ih =>
    obtain ⟨hd, hrest⟩ := List.ne_and_not_mem_of_not_mem_cons h
    rw [splitAt, if_neg hd.symm, ih hrest]

/-- Names that are steps of their own, into something in the directory that they are named in. -/
structure IsFileName (name : String) : Prop where
  nonempty : name ≠ ""
  no_slash : '/' ∉ name.toList
  ne_here : name ≠ "."
  ne_above : name ≠ ".."

theorem pathSteps_name {name : String} (h : IsFileName name) : pathSteps name = [name] := by
  have hname : name.toList ≠ [] := by simpa using h.nonempty
  simp [pathSteps, splitAt_of_not_mem h.no_slash, hname]

theorem pathSteps_slash (dir name : String) :
    pathSteps (dir ++ "/" ++ name) = pathSteps dir ++ pathSteps name := by
  have hlist : (dir ++ "/" ++ name).toList = dir.toList ++ '/' :: name.toList := by simp
  rw [pathSteps, hlist, splitAt_append_cons, List.filter_append, List.map_append, pathSteps,
    pathSteps]

/-- Joining puts a slash between, unless there is nothing to put it behind. -/
theorem joinPath_cases (dir name : String) :
    dir ≠ "" ∧ joinPath dir name = dir ++ "/" ++ name ∨
      dir = "" ∧ joinPath dir name = name ∨
      ∃ stem, dir = stem ++ "/" ∧ joinPath dir name = stem ++ "/" ++ name := by
  rw [joinPath]
  split
  next hend =>
    rcases hend with rfl | hend
    · exact .inr (.inl ⟨rfl, by simp⟩)
    · obtain ⟨cs, hcs⟩ := List.getLast?_eq_some_iff.1 hend
      have hdir : dir = String.ofList cs ++ "/" := by
        rw [← String.toList_inj, hcs]
        simp
      exact .inr (.inr ⟨String.ofList cs, hdir, by rw [hdir]⟩)
  next hend => exact .inl ⟨fun hdir => hend (.inl hdir), rfl⟩

theorem pathSteps_joinPath {name : String} (h : IsFileName name) (dir : String) :
    pathSteps (joinPath dir name) = pathSteps dir ++ [name] := by
  rcases joinPath_cases dir name with ⟨-, hjoin⟩ | ⟨rfl, hjoin⟩ | ⟨stem, rfl, hjoin⟩
  · rw [hjoin, pathSteps_slash, pathSteps_name h]
  · rw [hjoin, pathSteps_name h]
    rfl
  · have hstem : pathSteps (stem ++ "/") = pathSteps stem := by
      simpa [pathSteps, splitAt] using pathSteps_slash stem ""
    rw [hjoin, pathSteps_slash, pathSteps_name h, hstem]

theorem head?_toList_append {s : String} (h : s ≠ "") (t : String) :
    (s ++ t).toList.head? = s.toList.head? := by
  have hs : s.toList ≠ [] := by simpa using h
  rw [String.toList_append, List.head?_append_of_ne_nil _ hs]

namespace Place

/-- A name in a directory is found from where the directory is found from. -/
theorem startOf_joinPath {name : String} (h : IsFileName name) (home : Place) (dir : String) :
    home.startOf (joinPath dir name) = home.startOf dir := by
  rcases joinPath_cases dir name with ⟨hdir, hjoin⟩ | ⟨rfl, hjoin⟩ | ⟨stem, rfl, hjoin⟩
  · rw [startOf, startOf, hjoin, String.append_assoc, head?_toList_append hdir]
  · have hname : name.toList.head? ≠ some '/' := fun hhead =>
      h.no_slash (List.mem_of_mem_head? hhead)
    rw [startOf, startOf, hjoin, if_neg hname, if_neg (by simp)]
  · rw [startOf, startOf, hjoin, head?_toList_append (by simp)]

/-- A name in a directory leads to its place in the place of the directory. -/
theorem resolve_joinPath {name : String} (h : IsFileName name) (home : Place) (dir : String) :
    home.resolve (joinPath dir name) = (home.resolve dir).inside name := by
  rw [resolve, startOf_joinPath h, pathSteps_joinPath h, along_append, along_cons,
    step_name h.ne_here h.ne_above, along_nil, resolve]

theorem resolve_joinPath_inj {name other : String} (h : IsFileName name)
    (hother : IsFileName other) {home : Place} {dir : String} :
    home.resolve (joinPath dir name) = home.resolve (joinPath dir other) ↔ name = other := by
  rw [resolve_joinPath h, resolve_joinPath hother, inside_inj]

end Place

namespace FileTree

/-! ### Walks -/

variable {t : FileTree} {place : Place}

theorem find_eq_ok_iff {name : String} {n : Option Node} :
    t.find place name = .ok n ↔
      name.utf8ByteSize ≤ maxNameSize ∧ n = t.node? (place.inside name) := by
  rw [find]
  split
  next hlong => simp [Nat.not_le.2 hlong]
  next hshort => simp [Nat.not_lt.1 hshort, eq_comm]

/-- A walk that does not fail ends where its steps lead. -/
theorem enter_eq {steps : List String} {q : Place} (h : t.enter place steps = .ok q) :
    q = place.along steps := by
  fun_induction enter t place steps with
  | case1 place => simpa using h.symm
  | case2 place rest ih => exact ih h
  | case3 place rest _ ih => exact ih h
  | case4 => simp at h
  | case5 => simp at h
  | case6 => simp at h
  | case7 place name rest hhere habove _ ih =>
    rw [Place.along_cons, Place.step_name hhere habove]
    exact ih h

/-- A walk goes through directories only, so it does not notice what becomes of anything else. -/
theorem enter_put {steps : List String} {q x : Place} {n : Node}
    (hdir : t.node? x ≠ some .directory) (h : t.enter place steps = .ok q) :
    (t.put x n).enter place steps = .ok q := by
  fun_induction enter t place steps with
  | case1 place => simpa [enter] using h
  | case2 place rest ih => simpa [enter] using ih h
  | case3 place rest _ ih => simpa [enter] using ih h
  | case4 => simp at h
  | case5 => simp at h
  | case6 => simp at h
  | case7 place name rest hhere habove hfind ih =>
    obtain ⟨hshort, hnode⟩ := find_eq_ok_iff.1 hfind
    have hne : place.inside name ≠ x := by
      rintro rfl
      exact hdir hnode.symm
    have hput : (t.put x n).find place name = .ok (some .directory) := by
      rw [find_eq_ok_iff, node?_put hdir, if_neg hne]
      exact ⟨hshort, hnode⟩
    rw [enter, if_neg hhere, if_neg habove, hput]
    exact ih h

/-! ### Making directories -/

/-- Making directories adds directories on the way, and changes nothing else, whether it fails or
not. -/
theorem node?_makeAlong (t : FileTree) (made : Bool) (place : Place) (steps : List String)
    (x : Place) :
    (t.makeAlong made place steps).1.node? x = t.node? x ∨
      t.node? x = none ∧ (t.makeAlong made place steps).1.node? x = some .directory ∧
        place.Passes steps x := by
  fun_induction makeAlong t made place steps with
  | case1 => exact .inl rfl
  | case2 t made place rest ih => exact ih.imp_right fun ⟨hx, hx', h⟩ => ⟨hx, hx', h.cons rfl⟩
  | case3 t made place rest _ ih => exact ih.imp_right fun ⟨hx, hx', h⟩ => ⟨hx, hx', h.cons rfl⟩
  | case4 => exact .inl rfl
  | case5 t made place name rest hhere habove _ ih =>
    have hstep := Place.step_name hhere habove place
    exact ih.imp_right fun ⟨hx, hx', h⟩ => ⟨hx, hx', h.cons hstep⟩
  | case6 => exact .inl rfl
  | case7 => exact .inl rfl
  | case8 => exact .inl rfl
  | case9 t made place name rest hhere habove hfind _ ih =>
    have hstep := Place.step_name hhere habove place
    have hgap : t.node? (place.inside name) = none := (find_eq_ok_iff.1 hfind).2.symm
    have hfree : t.node? (place.inside name) ≠ some .directory := by simp [hgap]
    have hput := node?_put hfree .directory x
    by_cases hx : x = place.inside name
    · -- The directory that is made here is found again in the end, and there was nothing before.
      right
      rw [if_pos hx] at hput
      have hnone : t.node? x = none := hx ▸ hgap
      have hhere : place.Passes (name :: rest) x :=
        ⟨[name], by simp, by rw [Place.along_cons, hstep, hx, Place.along_nil]⟩
      rcases ih with hsame | ⟨hgone, -, -⟩
      · exact ⟨hnone, hsame.trans hput, hhere⟩
      · simp [hput] at hgone
    · rw [if_neg hx] at hput
      rw [hput] at ih
      exact ih.imp_right fun ⟨hx, hx', h⟩ => ⟨hx, hx', h.cons hstep⟩

theorem node?_makeDirs (t : FileTree) (path : String) (x : Place) :
    (t.makeDirs path).1.node? x = t.node? x ∨
      t.node? x = none ∧ (t.makeDirs path).1.node? x = some .directory ∧
        (t.home.startOf path).Passes (pathSteps path) x := by
  rw [makeDirs]
  split
  · exact .inl rfl
  · exact node?_makeAlong t false (t.home.startOf path) (pathSteps path) x

/-- The working directory stays where it is. -/
theorem home_makeAlong (t : FileTree) (made : Bool) (place : Place) (steps : List String) :
    (t.makeAlong made place steps).1.home = t.home := by
  fun_induction makeAlong t made place steps <;> simp_all

@[simp]
theorem home_makeDirs (t : FileTree) (path : String) : (t.makeDirs path).1.home = t.home := by
  rw [makeDirs]
  split
  · rfl
  · exact home_makeAlong t false (t.home.startOf path) (pathSteps path)

end FileTree

end RowSchema
