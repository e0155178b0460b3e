import RowSchema.Proofs.Generator
import RowSchema.Proofs.Protocol.Step

/-!
# What the protocol touches

Serving requests changes nothing but the output of the generations that are asked for. This is said
of each line of a run, with the machine as earlier lines have left it.

## Main definitions

* `Protocol.target?` — the directory and the document of a line that asks for a generation
* `Protocol.Footprint` — what a line leaves alone, and what it leaves behind

## Main results

* `Protocol.serve_footprint` — every line of a run keeps to its footprint

## Implementation notes

A footprint speaks of places and not of paths: two paths may lead to the same place, and a file is
changed under all of them at once. Only the files of a result are read by their paths, as the tool
that has asked for them does.
-/

namespace RowSchema.Protocol

open TypeScript (Package)

/-- The directory and the document of a line that asks for a generation. Every other line, and one
that does not say what to generate or where, asks for nothing. -/
def target? (line : List Char) : Option (String × Document) :=
  match Request.ofLine line with
  | .error _ => none
  | .ok request =>
    if request.method = "generate" then
      match Generator.Options.ofJson request.params with
      | .error _ => none
      | .ok options => options.outputPath.map (·, options.document)
    else none

/-- What a line leaves alone, and what it leaves behind. `s` and `t` are the machine before and
after it. -/
structure Footprint (clock : Nat → Time.Instant) (line : List Char) (s : Machine)
    (response : Response) (t : Machine) : Prop where
  /-- A line that asks for nothing changes nothing. -/
  idle : target? line = none → t = s
  /-- No line changes the working directory, from which relative paths are followed. -/
  home : t.files.home = s.files.home
  /-- A generation may make the directories that are missing on the way to its own, and may write
  its three files where no directory is. -/
  changed : ∀ dir document, target? line = some (dir, document) → ∀ place,
    t.files.node? place = s.files.node? place ∨
    (s.files.node? place = none ∧ t.files.node? place = some .directory ∧
      (s.files.home.startOf dir).Passes (pathSteps dir) place) ∨
    ∃ name ∈ Package.fileNames, place = s.files.home.resolve (joinPath dir name) ∧
      s.files.node? place ≠ some .directory ∧
      ∃ content, t.files.node? place = some (.file content)
  /-- A generation that cannot make its directory changes no content. -/
  unwritten : ∀ dir document fault, target? line = some (dir, document) →
    (s.files.makeDirs dir).2 = .error fault → ∀ place content,
      t.files.node? place = some (.file content) ↔ s.files.node? place = some (.file content)
  /-- A result is given for a generation only, and says that the files are there, all with the time
  that the machine has shown then. -/
  written : ∀ dir document result, target? line = some (dir, document) →
    response.outcome = .ok result →
    ∀ file ∈ (document.datamodel.package (clock s.looks)).files,
      t.files.read (joinPath dir file.1) = .ok file.2
  /-- A generation whose directory can be made and whose files can be written is answered with a
  result. -/
  answered : ∀ dir document, target? line = some (dir, document) →
    (s.files.makeDirs dir).2 = .ok () →
    (∀ name ∈ Package.fileNames, (s.files.makeDirs dir).1.Writable (joinPath dir name)) →
    response.outcome = .ok .null

variable {clock : Nat → Time.Instant} {line : List Char} {s t : Machine} {response : Response}

/-- A line that asks for nothing. -/
theorem Footprint.of_idle (h : target? line = none) : Footprint clock line s response s where
  idle _ := rfl
  home := rfl
  changed := by simp [h]
  unwritten := by simp [h]
  written := by simp [h]
  answered := by simp [h]

theorem target?_of_options {request : Request} {options : Generator.Options}
    (hread : Request.ofLine line = .ok request) (hmethod : request.method = "generate")
    (hoptions : Generator.Options.ofJson request.params = .ok options) :
    target? line = options.outputPath.map (·, options.document) := by
  simp [target?, hread, hmethod, hoptions]

/-- A line asks for one generation only. -/
theorem eq_of_target {dir dir' : String} {document document' : Document}
    (h : target? line = some (dir, document)) (h' : target? line = some (dir', document')) :
    dir = dir' ∧ document = document' :=
  Prod.mk.inj (Option.some.inj (h.symm.trans h'))

/-- A line that asks for a generation. -/
theorem Footprint.of_run {dir : String} {document : Document} {id : Json}
    {result : Except Generator.Error Generator.Summary}
    (htarget : target? line = some (dir, document))
    (hrun : (Generator.run (Machine.host clock) ⟨dir⟩ document).run s = (result, t)) :
    Footprint clock line s
      ⟨id, match result with | .ok _ => .ok .null | .error e => .error (.failed e)⟩ t where
  idle hnone := absurd (htarget.symm.trans hnone) nofun
  home := by
    have hhome := Generator.home_run ⟨dir⟩ clock s document
    rwa [hrun] at hhome
  changed _ _ h place := by
    obtain ⟨rfl, rfl⟩ := eq_of_target htarget h
    have hnode := Generator.node?_run ⟨dir⟩ clock s document place
    rw [hrun] at hnode
    refine hnode.imp_right (.imp_right ?_)
    rintro ⟨file, hfile, hplace, hdir, hcontent⟩
    exact ⟨file.1, Generator.name_mem_fileNames clock s document hfile, hplace, hdir, _, hcontent⟩
  unwritten _ _ fault h hdirs place content := by
    obtain ⟨rfl, rfl⟩ := eq_of_target htarget h
    have hcontent :=
      Generator.content_run_of_makeDirs_error ⟨dir⟩ clock s document hdirs place content
    rwa [hrun] at hcontent
  written _ _ value h houtcome := by
    obtain ⟨rfl, rfl⟩ := eq_of_target htarget h
    cases result with
    | error e => simp at houtcome
    | ok summary => exact Generator.read_run ⟨dir⟩ clock s document hrun
  answered _ _ h hdirs hfiles := by
    obtain ⟨rfl, rfl⟩ := eq_of_target htarget h
    have hresult := Generator.run_of_writable ⟨dir⟩ clock s document hdirs hfiles
    rw [hrun] at hresult
    cases hresult
    rfl

theorem footprint_of_step (h : Step (Machine.host clock) line s response t) :
    Footprint clock line s response t := by
  cases h with
  | unreadable hread => exact .of_idle (by simp [target?, hread])
  | manifest hread hmethod => exact .of_idle (by simp [target?, hread, hmethod])
  | unknown hread _ hgenerate => exact .of_idle (by simp [target?, hread, hgenerate])
  | invalidOptions hread hmethod hoptions =>
    exact .of_idle (by simp [target?, hread, hmethod, hoptions])
  | noOutput hread hmethod hoptions houtput =>
    exact .of_idle (by rw [target?_of_options hread hmethod hoptions, houtput]; rfl)
  | failed hread hmethod hoptions houtput hrun =>
    exact .of_run (by rw [target?_of_options hread hmethod hoptions, houtput]; rfl) hrun
  | generated hread hmethod hoptions houtput hrun =>
    exact .of_run (by rw [target?_of_options hread hmethod hoptions, houtput]; rfl) hrun

/-- **Footprint.** Whatever the files are and whatever the clock shows, every line of an input keeps
to its footprint when it is answered, with the machine as the lines before it have left it. -/
theorem serve_footprint (clock : Nat → Time.Instant) (s : Machine) (input : List Char) :
    Run (fun line before response after =>
        Answering (Machine.host clock) line before response after ∧
          Footprint clock line before response after)
      (requestLines input) s
      ((serve (Machine.host clock) input).run s).1
      ((serve (Machine.host clock) input).run s).2 :=
  (run_serve (Machine.host clock) input s).mono fun _ _ _ _ h => ⟨h, footprint_of_step h.step⟩

-- A generation into a directory that is not there yet, after a line that asks for nothing.
example : ((serve (Machine.host fun n => ⟨n, 0⟩)
      ("stop\n\x7b\"method\":\"generate\",\"params\":" ++
        "\x7b\"generator\":\x7b\"output\":\x7b\"value\":\"a/b\"\x7d\x7d," ++
        "\"dmmf\":\x7b\"datamodel\":\x7b\"models\":[]\x7d\x7d\x7d\x7d").toList).run
      ⟨.empty, 0⟩).2.files.read "a/b/index.ts" =
    .ok TypeScript.indexModule := by
  decide +kernel

end RowSchema.Protocol
