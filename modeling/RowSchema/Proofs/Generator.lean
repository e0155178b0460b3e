import Mathlib.Tactic.Common
import RowSchema.Generator
import RowSchema.Proofs.Store.File
import RowSchema.Store.Machine

/-!
# What generation leaves behind

Generating into a directory makes the directory and writes into it, and touches nothing else. The
directory comes first: where it cannot be made, no file has been opened yet.

## Main definitions

* `Generator.rendered` — the files that are written

## Main results

* `Generator.node?_run` — what a generation may change, whether it fails or not
* `Generator.home_run` — it stays in its working directory
* `Generator.content_run_of_makeDirs_error` — what it leaves alone if it cannot make its directory
* `Generator.read_run` — what is found after a generation that does not fail
* `Generator.run_of_writable` — when a generation does not fail
-/

namespace RowSchema.Generator

variable (g : Generator) (clock : Nat → Time.Instant) (m : Machine)

/-! ### Writing several files -/

/-- The machine after one file, whether it could be written or not. -/
def afterWrite (name content : String) : Machine :=
  { m with files := (m.files.write (joinPath g.outputDir name) content).1 }

section Several

variable {files : List (String × String)} {name content : String}

theorem run_writeAll_cons (name content : String) (rest : List (String × String)) :
    (writeAll (Machine.host clock) g ((name, content) :: rest)).run m =
      match (m.files.write (joinPath g.outputDir name) content).2 with
      | .ok () => (writeAll (Machine.host clock) g rest).run (g.afterWrite m name content)
      | .error fault =>
        (.error (.writeFailed (joinPath g.outputDir name) fault),
          ((writeAll (Machine.host clock) g rest).run (g.afterWrite m name content)).2) := by
  rw [writeAll, Machine.run_bind, Machine.run_write]
  cases (m.files.write (joinPath g.outputDir name) content).2 <;> rfl

theorem run_writeAll_cons_snd (name content : String) (rest : List (String × String)) :
    ((writeAll (Machine.host clock) g ((name, content) :: rest)).run m).2 =
      ((writeAll (Machine.host clock) g rest).run (g.afterWrite m name content)).2 := by
  rw [run_writeAll_cons]
  split <;> rfl

@[simp]
theorem home_afterWrite (name content : String) :
    (g.afterWrite m name content).files.home = m.files.home := by
  simp [afterWrite]

theorem node?_afterWrite (name content : String) (x : Place) :
    (g.afterWrite m name content).files.node? x = m.files.node? x ∨
      x = m.files.home.resolve (joinPath g.outputDir name) ∧ m.files.node? x ≠ some .directory ∧
        (g.afterWrite m name content).files.node? x = some (.file content) := by
  rw [afterWrite]
  rcases m.files.write_cases (joinPath g.outputDir name) content with
    ⟨-, e, hwrite⟩ | ⟨place, n, hlocate, hdir, hwrite⟩
  · rw [hwrite]
    exact .inl rfl
  · have hput := FileTree.node?_put hdir (.file content) x
    rw [hwrite]
    by_cases hx : x = place
    · rw [if_pos hx] at hput
      refine .inr ⟨hx.trans (FileTree.eq_resolve_of_locate hlocate), ?_, hput⟩
      rwa [hx]
    · rw [if_neg hx] at hput
      exact .inl hput

/-- Files are written in their places only, and never in the place of a directory. -/
theorem node?_writeAll (files : List (String × String)) (x : Place) :
    ((writeAll (Machine.host clock) g files).run m).2.files.node? x = m.files.node? x ∨
      ∃ file ∈ files, x = m.files.home.resolve (joinPath g.outputDir file.1) ∧
        m.files.node? x ≠ some .directory ∧
          ((writeAll (Machine.host clock) g files).run m).2.files.node? x =
            some (.file file.2) := by
  induction files generalizing m with
  | nil => exact .inl rfl
  | cons first rest ih =>
    obtain ⟨name, content⟩ := first
    have hfirst := g.node?_afterWrite m name content x
    rw [run_writeAll_cons_snd]
    rcases ih (g.afterWrite m name content) with hsame | ⟨file, hfile, hx, hdir, hnode⟩
    · rw [hsame]
      exact hfirst.imp_right fun h => ⟨(name, content), List.mem_cons_self, h⟩
    · rw [home_afterWrite] at hx
      refine .inr ⟨file, List.mem_cons_of_mem _ hfile, hx, ?_, hnode⟩
      rcases hfirst with hsame | ⟨-, hdir', -⟩
      · rwa [← hsame]
      · exact hdir'

theorem home_writeAll (files : List (String × String)) :
    ((writeAll (Machine.host clock) g files).run m).2.files.home = m.files.home := by
  induction files generalizing m with
  | nil => rfl
  | cons first rest ih => rw [run_writeAll_cons_snd, ih, home_afterWrite]

/-- Writing other files does not change what is read from a file. -/
theorem read_writeAll_of_not_mem (hname : IsFileName name)
    (hnames : ∀ file ∈ files, IsFileName file.1) (hnot : name ∉ files.map Prod.fst)
    (hread : m.files.read (joinPath g.outputDir name) = .ok content) :
    ((writeAll (Machine.host clock) g files).run m).2.files.read (joinPath g.outputDir name) =
      .ok content := by
  induction files generalizing m with
  | nil => exact hread
  | cons first rest ih =>
    obtain ⟨other, content'⟩ := first
    obtain ⟨hother, hrest⟩ := List.forall_mem_cons.1 hnames
    obtain ⟨hne, hnot⟩ := List.ne_and_not_mem_of_not_mem_cons hnot
    rw [run_writeAll_cons_snd]
    have hplace : m.files.home.resolve (joinPath g.outputDir name) ≠
        m.files.home.resolve (joinPath g.outputDir other) :=
      mt (Place.resolve_joinPath_inj hname hother).1 hne
    exact ih (g.afterWrite m other content') hrest hnot
      (FileTree.read_write_other hplace content' hread)

/-- What has been written without a failure is read back. -/
theorem read_writeAll (hnames : ∀ file ∈ files, IsFileName file.1)
    (hnodup : (files.map Prod.fst).Nodup) {m' : Machine}
    (h : (writeAll (Machine.host clock) g files).run m = (.ok (), m')) :
    ∀ file ∈ files, m'.files.read (joinPath g.outputDir file.1) = .ok file.2 := by
  induction files generalizing m with
  | nil => simp
  | cons first rest ih =>
    obtain ⟨name, content⟩ := first
    obtain ⟨hname, hrest⟩ := List.forall_mem_cons.1 hnames
    obtain ⟨hnot, hnodup⟩ := List.nodup_cons.1 hnodup
    rw [run_writeAll_cons] at h
    split at h
    next hwrite =>
      refine List.forall_mem_cons.2 ⟨?_, ih _ hrest hnodup h⟩
      have hfirst : (g.afterWrite m name content).files.read (joinPath g.outputDir name) =
          .ok content := FileTree.read_write hwrite
      have hlater := g.read_writeAll_of_not_mem clock _ hname hrest hnot hfirst
      rwa [h] at hlater
    next => exact absurd (Prod.mk.inj h).1 (by simp)

/-- Files that can be written before any of them is written are all written. -/
theorem run_writeAll_of_writable
    (h : ∀ file ∈ files, m.files.Writable (joinPath g.outputDir file.1)) :
    ((writeAll (Machine.host clock) g files).run m).1 = .ok () := by
  induction files generalizing m with
  | nil => rfl
  | cons first rest ih =>
    obtain ⟨name, content⟩ := first
    obtain ⟨hfirst, hrest⟩ := List.forall_mem_cons.1 h
    rw [run_writeAll_cons, FileTree.write_eq_ok hfirst]
    exact ih _ fun file hfile => (hrest file hfile).write _ _

end Several

/-! ### The files of a generation -/

variable (document : Document)

/-- The files for a document, with the time that the machine shows next. -/
def rendered : List (String × String) :=
  (document.datamodel.package (clock m.looks)).files

theorem names_rendered :
    (rendered clock m document).map Prod.fst = TypeScript.Package.fileNames := rfl

theorem name_mem_fileNames {file : String × String} (h : file ∈ rendered clock m document) :
    file.1 ∈ TypeScript.Package.fileNames :=
  names_rendered clock m document ▸ List.mem_map_of_mem h

theorem isFileName_of_mem {name : String} (h : name ∈ TypeScript.Package.fileNames) :
    IsFileName name := by
  simp only [TypeScript.Package.fileNames, List.mem_cons, List.not_mem_nil, or_false] at h
  rcases h with rfl | rfl | rfl <;> exact ⟨by decide, by decide, by decide, by decide⟩

theorem isFileName_rendered : ∀ file ∈ rendered clock m document, IsFileName file.1 :=
  fun _ hfile => isFileName_of_mem (name_mem_fileNames clock m document hfile)

/-! ### Whole generations -/

/-- The machine after the directory of a generation has been made and the time has been asked. -/
def prepared : Machine :=
  ⟨(m.files.makeDirs g.outputDir).1, m.looks + 1⟩

/-- What a generation is summarised as. -/
def summaryOf : Summary :=
  ⟨document.datamodel.schemaModels.length, document.datamodel.enums.length,
    TypeScript.Package.fileNames⟩

section Whole

variable {g m}

/-- A generation that cannot make its directory ends there. -/
theorem run_of_makeDirs_error {fault : FileFault}
    (h : (m.files.makeDirs g.outputDir).2 = .error fault) :
    (g.run (Machine.host clock) document).run m =
      (.error (.writeFailed g.outputDir fault),
        { m with files := (m.files.makeDirs g.outputDir).1 }) := by
  rw [Generator.run, Machine.run_bind, Machine.run_makeDirs, h]
  rfl

/-- A generation that can make its directory goes on to write its files. -/
theorem run_of_makeDirs_ok (h : (m.files.makeDirs g.outputDir).2 = .ok ()) :
    (g.run (Machine.host clock) document).run m =
      Prod.map (Except.map fun _ => summaryOf document) id
        ((writeAll (Machine.host clock) g (rendered clock m document)).run (g.prepared m)) := by
  rw [Generator.run, Machine.run_bind, Machine.run_makeDirs, h]
  dsimp only
  rw [Machine.run_bind, Machine.run_now, Machine.run_bind]
  dsimp only
  rw [← rendered, ← prepared]
  generalize (writeAll (Machine.host clock) g (rendered clock m document)).run (g.prepared m) = out
  obtain ⟨result, m'⟩ := out
  cases result <;> rfl

end Whole

/-- A generation adds directories on the way to its own, and puts its files where no directory is.
Nothing else changes, whether it fails or not. -/
theorem node?_run (x : Place) :
    ((g.run (Machine.host clock) document).run m).2.files.node? x = m.files.node? x ∨
      (m.files.node? x = none ∧
        ((g.run (Machine.host clock) document).run m).2.files.node? x = some .directory ∧
        (m.files.home.startOf g.outputDir).Passes (pathSteps g.outputDir) x) ∨
      ∃ file ∈ rendered clock m document,
        x = m.files.home.resolve (joinPath g.outputDir file.1) ∧
        m.files.node? x ≠ some .directory ∧
        ((g.run (Machine.host clock) document).run m).2.files.node? x = some (.file file.2) := by
  have hdirs := m.files.node?_makeDirs g.outputDir x
  cases hresult : (m.files.makeDirs g.outputDir).2 with
  | error fault =>
    rw [run_of_makeDirs_error clock document hresult]
    exact hdirs.imp_right .inl
  | ok =>
    have hfiles := g.node?_writeAll clock (g.prepared m) (rendered clock m document) x
    rw [run_of_makeDirs_ok clock document hresult, Prod.map_snd, id]
    rcases hfiles with hsame | ⟨file, hfile, hx, hdir, hnode⟩
    · rw [hsame]
      exact hdirs.imp_right .inl
    · rw [prepared, FileTree.home_makeDirs] at hx
      refine .inr (.inr ⟨file, hfile, hx, ?_, hnode⟩)
      -- A directory that has just been made would be in the way of the file.
      rcases hdirs with hsame | ⟨-, hmade, -⟩
      · rwa [← hsame]
      · exact absurd hmade hdir

/-- A generation stays in its working directory, whether it fails or not. -/
theorem home_run :
    ((g.run (Machine.host clock) document).run m).2.files.home = m.files.home := by
  cases hresult : (m.files.makeDirs g.outputDir).2 with
  | error fault =>
    rw [run_of_makeDirs_error clock document hresult]
    exact m.files.home_makeDirs g.outputDir
  | ok =>
    rw [run_of_makeDirs_ok clock document hresult, Prod.map_snd, id, home_writeAll]
    exact m.files.home_makeDirs g.outputDir

/-- A generation that cannot make its directory leaves every content as it was. -/
theorem content_run_of_makeDirs_error {fault : FileFault}
    (h : (m.files.makeDirs g.outputDir).2 = .error fault) (x : Place) (content : String) :
    ((g.run (Machine.host clock) document).run m).2.files.node? x = some (.file content) ↔
      m.files.node? x = some (.file content) := by
  rw [run_of_makeDirs_error clock document h]
  rcases m.files.node?_makeDirs g.outputDir x with hsame | ⟨hnone, hmade, -⟩
  · rw [hsame]
  · simp [hnone, hmade]

/-- The files of a generation that does not fail are there afterwards. -/
theorem read_run {summary : Summary} {m' : Machine}
    (h : (g.run (Machine.host clock) document).run m = (.ok summary, m')) :
    ∀ file ∈ rendered clock m document,
      m'.files.read (joinPath g.outputDir file.1) = .ok file.2 := by
  cases hresult : (m.files.makeDirs g.outputDir).2 with
  | error fault =>
    rw [run_of_makeDirs_error clock document hresult] at h
    exact absurd (Prod.mk.inj h).1 (by simp)
  | ok =>
    have hnodup : ((rendered clock m document).map Prod.fst).Nodup := by
      rw [names_rendered]
      decide
    rw [run_of_makeDirs_ok clock document hresult] at h
    refine g.read_writeAll clock (g.prepared m) (isFileName_rendered clock m document) hnodup ?_
    generalize (writeAll (Machine.host clock) g (rendered clock m document)).run
      (g.prepared m) = out at h ⊢
    obtain ⟨result, t⟩ := out
    obtain ⟨hmap, ht⟩ := Prod.mk.inj h
    cases result with
    | error e => exact absurd hmap (by simp [Except.map])
    | ok => exact Prod.ext rfl ht

/-- A generation does not fail if its directory can be made and its files can be written then. -/
theorem run_of_writable (hdirs : (m.files.makeDirs g.outputDir).2 = .ok ())
    (hfiles : ∀ name ∈ TypeScript.Package.fileNames,
      (m.files.makeDirs g.outputDir).1.Writable (joinPath g.outputDir name)) :
    ((g.run (Machine.host clock) document).run m).1 = .ok (summaryOf document) := by
  have hwritten : ((writeAll (Machine.host clock) g (rendered clock m document)).run
      (g.prepared m)).1 = .ok () :=
    g.run_writeAll_of_writable clock (g.prepared m) fun file hfile =>
      hfiles file.1 (name_mem_fileNames clock m document hfile)
  rw [run_of_makeDirs_ok clock document hdirs, Prod.map_fst, hwritten]
  rfl

end RowSchema.Generator
