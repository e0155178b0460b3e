import Mathlib.Data.List.Forall2
import RowSchema.Protocol.Serve

/-!
# What can happen to a line

Every line that is answered takes one of seven ways through the protocol. Only two of them reach
the machine: the ways of a request for generation that has a document and a directory.

## Main definitions

* `Protocol.Step` — the ways of a line, each with its answer and the states before and after it
* `Protocol.Answering` — answering one line
* `Protocol.Run` — a run over several lines, line by line

## Main results

* `Protocol.Answering.step` — answering a line takes one of the ways
* `Protocol.run_serve` — answering an input is a run over its lines
* `Protocol.Run.mono`, `Protocol.Run.forall₂` — from one line to all of them
-/

namespace RowSchema.Protocol

variable {σ : Type} {host : Host (StateM σ)}

/-- The ways of a line: its answer, and the states before and after it. -/
inductive Step (host : Host (StateM σ)) (line : List Char) : σ → Response → σ → Prop
  | unreadable {s : σ} {fault : Fault} (hread : Request.ofLine line = .error fault) :
      Step host line s ⟨.null, .error (.unreadable line fault)⟩ s
  | manifest {s : σ} {request : Request} (hread : Request.ofLine line = .ok request)
      (hmethod : request.method = "getManifest") :
      Step host line s ⟨request.id, .ok (Json.object [("manifest", Protocol.manifest)]).value⟩ s
  | unknown {s : σ} {request : Request} (hread : Request.ofLine line = .ok request)
      (hmanifest : request.method ≠ "getManifest") (hgenerate : request.method ≠ "generate") :
      Step host line s ⟨request.id, .error (.unknownMethod request.method)⟩ s
  | invalidOptions {s : σ} {request : Request} {mismatch : Json.Mismatch}
      (hread : Request.ofLine line = .ok request) (hmethod : request.method = "generate")
      (hoptions : Generator.Options.ofJson request.params = .error mismatch) :
      Step host line s ⟨request.id, .error (.invalidOptions mismatch)⟩ s
  | noOutput {s : σ} {request : Request} {options : Generator.Options}
      (hread : Request.ofLine line = .ok request) (hmethod : request.method = "generate")
      (hoptions : Generator.Options.ofJson request.params = .ok options)
      (houtput : options.outputPath = none) :
      Step host line s ⟨request.id, .error (.failed .missingOutput)⟩ s
  | failed {s t : σ} {request : Request} {options : Generator.Options} {dir : String}
      {error : Generator.Error}
      (hread : Request.ofLine line = .ok request) (hmethod : request.method = "generate")
      (hoptions : Generator.Options.ofJson request.params = .ok options)
      (houtput : options.outputPath = some dir)
      (hrun : (Generator.run host ⟨dir⟩ options.document).run s = (.error error, t)) :
      Step host line s ⟨request.id, .error (.failed error)⟩ t
  | generated {s t : σ} {request : Request} {options : Generator.Options} {dir : String}
      {summary : Generator.Summary}
      (hread : Request.ofLine line = .ok request) (hmethod : request.method = "generate")
      (hoptions : Generator.Options.ofJson request.params = .ok options)
      (houtput : options.outputPath = some dir)
      (hrun : (Generator.run host ⟨dir⟩ options.document).run s = (.ok summary, t)) :
      Step host line s ⟨request.id, .ok .null⟩ t

/-- Answering a line takes one of the ways. -/
theorem step_answer (host : Host (StateM σ)) (line : List Char) (s : σ) :
    Step host line s ((answer host line).run s).1 ((answer host line).run s).2 := by
  unfold answer
  cases hread : Request.ofLine line with
  | error fault => exact .unreadable hread
  | ok request =>
    simp only [respond]
    split
    next hmethod => exact .manifest hread hmethod
    next hmethod =>
      simp only [generate]
      cases hoptions : Generator.Options.ofJson request.params with
      | error mismatch => exact .invalidOptions hread hmethod hoptions
      | ok options =>
        cases houtput : options.outputPath with
        | none =>
          have hgenerator : Generator.ofOutput options.output = .error .missingOutput := by
            rw [Generator.ofOutput, ← Generator.Options.outputPath, houtput]
          simp only [hgenerator]
          exact .noOutput hread hmethod hoptions houtput
        | some dir =>
          have hgenerator : Generator.ofOutput options.output = .ok ⟨dir⟩ := by
            rw [Generator.ofOutput, ← Generator.Options.outputPath, houtput]
          simp only [hgenerator]
          cases hrun : (Generator.run host ⟨dir⟩ options.document).run s with
          | mk result t =>
            simp only [StateT.run_bind, hrun]
            cases result with
            | error error => exact .failed hread hmethod hoptions houtput hrun
            | ok summary => exact .generated hread hmethod hoptions houtput hrun
    next hmanifest hgenerate => exact .unknown hread hmanifest hgenerate

/-! ### Runs -/

/-- A run over lines, with its answers and the states before and after it. `Way` says what one line
does. -/
inductive Run (Way : List Char → σ → Response → σ → Prop) :
    List (List Char) → σ → List Response → σ → Prop
  | nil {s : σ} : Run Way [] s [] s
  | cons {line : List Char} {lines : List (List Char)} {s t u : σ} {response : Response}
      {responses : List Response} (first : Way line s response t)
      (others : Run Way lines t responses u) :
      Run Way (line :: lines) s (response :: responses) u

/-- A line is answered in a state, with what comes of it. -/
def Answering (host : Host (StateM σ)) (line : List Char) (s : σ) (response : Response) (t : σ) :
    Prop :=
  (answer host line).run s = (response, t)

theorem Answering.step {line : List Char} {s t : σ} {response : Response}
    (h : Answering host line s response t) : Step host line s response t := by
  have hstep := step_answer host line s
  rwa [h] at hstep

/-- Answering an input is a run over its lines. -/
theorem run_serve (host : Host (StateM σ)) (input : List Char) (s : σ) :
    Run (Answering host) (requestLines input) s ((serve host input).run s).1
      ((serve host input).run s).2 := by
  unfold serve
  generalize requestLines input = lines
  induction lines generalizing s with
  | nil => exact .nil
  | cons line lines ih =>
    rw [List.mapM_cons]
    exact .cons rfl (ih _)

namespace Run

variable {Way Way' : List Char → σ → Response → σ → Prop} {lines : List (List Char)}
  {responses : List Response} {s t : σ}

/-- What holds of every line that is answered holds of the whole run. -/
theorem mono (h : Run Way lines s responses t)
    (hway : ∀ line s response t, Way line s response t → Way' line s response t) :
    Run Way' lines s responses t := by
  induction h with
  | nil => exact .nil
  | cons first _ ih => exact .cons (hway _ _ _ _ first) ih

/-- What an answer has to do with its line, it has to do with it in every run. -/
theorem forall₂ {Answers : List Char → Response → Prop} (h : Run Way lines s responses t)
    (hway : ∀ line s response t, Way line s response t → Answers line response) :
    List.Forall₂ Answers lines responses := by
  induction h with
  | nil => exact .nil
  | cons first _ ih => exact .cons (hway _ _ _ _ first) ih

end Run

end RowSchema.Protocol
