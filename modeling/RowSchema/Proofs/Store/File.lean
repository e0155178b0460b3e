import RowSchema.Proofs.Store.Path

/-!
# Files at the ends of paths

What a path locates, and how writing one file leaves the others. A file only ever takes
the place of a file or of nothing, so no walk notices it.

## Main results

* `FileTree.eq_resolve_of_locate` — what is located is where the path leads
* `FileTree.write_cases` — a write puts a file where there is no directory, or changes nothing
* `FileTree.read_write`, `FileTree.read_write_other` — what is read after a write
-/

namespace RowSchema.FileTree

variable {t : FileTree} {path : String} {place x : Place} {n : Option Node}

/-! ### Locating -/

/-- A path is located by a walk to the directory before its last step. -/
theorem locate_eq {steps : List String} {last : String} (hf : pathFault? path = none)
    (hsteps : stepsToOpen path = steps ++ [last]) (hhere : last ≠ ".") (habove : last ≠ "..") :
    t.locate path = (t.enter (t.home.startOf path) steps).bind fun dir =>
      (t.find dir last).map fun n => (dir.inside last, n) := by
  simp only [locate, hf, hsteps, List.getLast?_concat, List.dropLast_concat, hhere, habove,
    or_self, if_false]
  rfl

theorem exists_steps_of_locate (h : t.locate path = .ok (place, n)) :
    pathFault? path = none ∧ ∃ steps last, stepsToOpen path = steps ++ [last] ∧
      last ≠ "." ∧ last ≠ ".." := by
  unfold locate at h
  cases hf : pathFault? path with
  | some e => simp [hf, throw, throwThe, MonadExceptOf.throw, bind, Except.bind] at h
  | none =>
    refine ⟨rfl, ?_⟩
    cases hlast : (stepsToOpen path).getLast? with
    | none =>
      simp only [hf, hlast] at h
      split at h <;> simp [throw, throwThe, MonadExceptOf.throw] at h
    | some last =>
      obtain ⟨steps, hsteps⟩ := List.getLast?_eq_some_iff.1 hlast
      refine ⟨steps, last, hsteps, ?_⟩
      rw [← not_or]
      intro hdots
      simp only [hf, hlast, if_pos hdots] at h
      cases henter : t.enter (t.home.startOf path) (stepsToOpen path).dropLast <;>
        simp [henter, throw, throwThe, MonadExceptOf.throw, bind, Except.bind] at h

theorem locate_eq_ok_iff :
    t.locate path = .ok (place, n) ↔
      pathFault? path = none ∧ ∃ steps last, stepsToOpen path = steps ++ [last] ∧
        last ≠ "." ∧ last ≠ ".." ∧ ∃ dir, t.enter (t.home.startOf path) steps = .ok dir ∧
          t.find dir last = .ok n ∧ place = dir.inside last := by
  constructor
  · intro h
    obtain ⟨hf, steps, last, hsteps, hhere, habove⟩ := exists_steps_of_locate h
    refine ⟨hf, steps, last, hsteps, hhere, habove, ?_⟩
    rw [locate_eq hf hsteps hhere habove] at h
    cases henter : t.enter (t.home.startOf path) steps with
    | error e => simp [henter, Except.bind] at h
    | ok dir =>
      cases hfind : t.find dir last with
      | error e => simp [henter, hfind, Except.bind, Except.map] at h
      | ok m =>
        simp only [henter, hfind, Except.bind, Except.map, Except.ok.injEq, Prod.mk.injEq] at h
        exact ⟨dir, rfl, by rw [hfind, h.2], h.1.symm⟩
  · rintro ⟨hf, steps, last, hsteps, hhere, habove, dir, henter, hfind, rfl⟩
    rw [locate_eq hf hsteps hhere habove, henter, Except.bind, hfind, Except.map]

theorem node?_of_locate (h : t.locate path = .ok (place, n)) : n = t.node? place := by
  obtain ⟨-, steps, last, -, -, -, dir, -, hfind, rfl⟩ := locate_eq_ok_iff.1 h
  exact (find_eq_ok_iff.1 hfind).2

/-- What is located is where the path leads. -/
theorem eq_resolve_of_locate (h : t.locate path = .ok (place, n)) :
    place = t.home.resolve path := by
  obtain ⟨-, steps, last, hsteps, hhere, habove, dir, henter, -, rfl⟩ := locate_eq_ok_iff.1 h
  have hpath : pathSteps path = steps ++ [last] := by
    rw [stepsToOpen] at hsteps
    split at hsteps
    · exact absurd (List.singleton_inj.1 (List.append_inj' hsteps rfl).2).symm hhere
    · exact hsteps
  rw [Place.resolve, hpath, Place.along_append, ← enter_eq henter, Place.along_cons,
    Place.step_name hhere habove, Place.along_nil]

theorem locate_put (hdir : t.node? x ≠ some .directory) (k : Node)
    (h : t.locate path = .ok (place, n)) :
    (t.put x k).locate path = .ok (place, (t.put x k).node? place) := by
  obtain ⟨hf, steps, last, hsteps, hhere, habove, dir, henter, hfind, rfl⟩ := locate_eq_ok_iff.1 h
  refine locate_eq_ok_iff.2 ⟨hf, steps, last, hsteps, hhere, habove, dir,
    enter_put hdir henter, ?_, rfl⟩
  exact find_eq_ok_iff.2 ⟨(find_eq_ok_iff.1 hfind).1, rfl⟩

/-! ### Writing and reading -/

/-- Whether a path leads to something that a file may be put in the place of. -/
def Writable (t : FileTree) (path : String) : Prop :=
  ∃ place n, t.locate path = .ok (place, n) ∧ t.node? place ≠ some .directory

/-- A write puts a file where there is no directory, or changes nothing. -/
theorem write_cases (t : FileTree) (path content : String) :
    (¬ t.Writable path ∧ ∃ e, t.write path content = (t, .error e)) ∨
      ∃ place n, t.locate path = .ok (place, n) ∧ t.node? place ≠ some .directory ∧
        t.write path content = (t.put place (.file content), .ok ()) := by
  rw [Writable, write]
  cases hlocate : t.locate path with
  | error e => exact .inl ⟨by simp, e, rfl⟩
  | ok found =>
    obtain ⟨place, n⟩ := found
    have hnode := node?_of_locate hlocate
    match n with
    | some .directory => exact .inl ⟨by simp [← hnode], _, rfl⟩
    | some (.file old) => exact .inr ⟨place, _, rfl, by simp [← hnode], rfl⟩
    | none => exact .inr ⟨place, _, rfl, by simp [← hnode], rfl⟩

theorem write_eq_ok {content : String} (h : t.Writable path) :
    (t.write path content).2 = .ok () := by
  rcases t.write_cases path content with ⟨hnot, -⟩ | ⟨place, n, -, -, hwrite⟩
  · exact absurd h hnot
  · rw [hwrite]

/-- The working directory stays where it is. -/
@[simp]
theorem home_write (t : FileTree) (path content : String) :
    (t.write path content).1.home = t.home := by
  rcases t.write_cases path content with ⟨-, e, hwrite⟩ | ⟨place, n, -, -, hwrite⟩ <;> simp [hwrite]

/-- A write does not keep other files from being written. -/
theorem Writable.write (h : t.Writable path) (other content : String) :
    (t.write other content).1.Writable path := by
  rcases t.write_cases other content with ⟨-, e, hwrite⟩ | ⟨x, n, hlocate, hdir, hwrite⟩
  · rwa [hwrite]
  · obtain ⟨place, n, hplace, hnode⟩ := h
    rw [hwrite]
    refine ⟨place, _, locate_put hdir _ hplace, ?_⟩
    rw [node?_put hdir]
    split
    · simp
    · exact hnode

theorem read_eq_ok_iff {content : String} :
    t.read path = .ok content ↔ ∃ place, t.locate path = .ok (place, some (.file content)) := by
  rw [read]
  cases hlocate : t.locate path with
  | error e => simp [bind, Except.bind]
  | ok found =>
    obtain ⟨place, n⟩ := found
    match n with
    | none => simp [bind, Except.bind, throw, throwThe, MonadExceptOf.throw]
    | some .directory => simp [bind, Except.bind, throw, throwThe, MonadExceptOf.throw]
    | some (.file old) => simp [bind, Except.bind, pure, Except.pure]

theorem read_write {content : String} (h : (t.write path content).2 = .ok ()) :
    (t.write path content).1.read path = .ok content := by
  rcases t.write_cases path content with ⟨-, e, hwrite⟩ | ⟨place, n, hlocate, hdir, hwrite⟩
  · simp [hwrite] at h
  · have hput := locate_put hdir (.file content) hlocate
    rw [node?_put hdir, if_pos rfl] at hput
    rw [hwrite]
    exact read_eq_ok_iff.2 ⟨place, hput⟩

theorem read_write_other {other content : String} (hne : t.home.resolve path ≠ t.home.resolve other)
    (content' : String) (h : t.read path = .ok content) :
    (t.write other content').1.read path = .ok content := by
  rcases t.write_cases other content' with ⟨-, e, hwrite⟩ | ⟨place, n, hlocate, hdir, hwrite⟩
  · rwa [hwrite]
  · obtain ⟨q, hq⟩ := read_eq_ok_iff.1 h
    have hput := locate_put hdir (.file content') hq
    have hplace : q ≠ place := by rwa [eq_resolve_of_locate hq, eq_resolve_of_locate hlocate]
    rw [node?_put hdir, if_neg hplace, ← node?_of_locate hq] at hput
    rw [hwrite]
    exact read_eq_ok_iff.2 ⟨q, hput⟩

end RowSchema.FileTree
