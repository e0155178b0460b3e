import RowSchema.Query.Pipeline

/-!
# Runs of a pipeline

A pipeline is prepared once and called many times. The query behind it may have a state, so that its
answer to a call depends on all calls before it, and which of them reached the query depends on
which inputs could be encoded.

All three pipelines are one: something is done before the query, which may refuse the input, and
something after it, which may refuse the answer. A pipeline without an encoder or without a decoder
refuses nothing at that place. What a call does is said once, for a pipeline of any such kind, and
a run is a sequence of calls, each of which starts in the state that the one before it left.

## Main definitions

* `Query.Call`, `Query.Calls` — what a call does, and what a sequence of calls does
* `Query.noted` — a query that notes what it is asked
* `Query.StagedBy` — a pipeline that runs as `Calls` says

## Main results

* `Query.call_staged`, `Query.calls_staged` — the step and the run
* `Query.runs_of_pipelines` — the runs of the three pipelines

## Implementation notes

The state of a query need not show how often it was asked. The runs are therefore followed with a
query that also notes every row it is given, and `StagedBy` says that the notes change nothing.
-/

namespace RowSchema.Query

variable {σ ι ρ α β : Type}

/-! ### Calls -/

/-- What one call of a pipeline does: the state before it, the rows with which the query is asked,
the result, and the state after it. `before` is done with the input and `after` with the answer. -/
inductive Call (before : ι → Except Schema.ParseError ρ)
    (query : ρ → StateM σ (Except Failure α)) (after : α → Except Schema.ParseError β)
    (input : ι) : σ → List ρ → Except Error β → σ → Prop
  /-- An input that is refused does not reach the query. -/
  | refused {s : σ} {e : Schema.ParseError} (hinput : before input = .error e) :
      Call before query after input s [] (.error (.rejected e)) s
  /-- The failure itself is the lack of a row. -/
  | notFound {s t : σ} {row : ρ} (hinput : before input = .ok row)
      (hquery : (query row).run s = (.error .noResult, t)) :
      Call before query after input s [row] (.error .notFound) t
  /-- Any other failure is kept, whatever lies behind it. -/
  | failed {s t : σ} {row : ρ} {cause : Failure} (hinput : before input = .ok row)
      (hquery : (query row).run s = (.error cause, t)) (hcause : cause ≠ .noResult) :
      Call before query after input s [row] (.error (.failed cause.text cause)) t
  /-- The answer is refused. -/
  | unreadable {s t : σ} {row : ρ} {raw : α} {e : Schema.ParseError}
      (hinput : before input = .ok row) (hquery : (query row).run s = (.ok raw, t))
      (hanswer : after raw = .error e) :
      Call before query after input s [row] (.error (.rejected e)) t
  | answered {s t : σ} {row : ρ} {raw : α} {result : β} (hinput : before input = .ok row)
      (hquery : (query row).run s = (.ok raw, t)) (hanswer : after raw = .ok result) :
      Call before query after input s [row] (.ok result) t

/-- What a sequence of calls does, one after another. -/
inductive Calls (before : ι → Except Schema.ParseError ρ)
    (query : ρ → StateM σ (Except Failure α)) (after : α → Except Schema.ParseError β) :
    List ι → σ → List ρ → List (Except Error β) → σ → Prop
  | nil {s : σ} : Calls before query after [] s [] [] s
  | cons {input : ι} {inputs : List ι} {s t u : σ} {asked asked' : List ρ} {result : Except Error β}
      {results : List (Except Error β)} (first : Call before query after input s asked result t)
      (others : Calls before query after inputs t asked' results u) :
      Calls before query after (input :: inputs) s (asked ++ asked') (result :: results) u

/-- The query with a note of each row that it is asked with, in order. -/
def noted (query : ρ → StateM σ α) (row : ρ) : StateM (σ × List ρ) α := fun (s, asked) =>
  let (answer, t) := (query row).run s
  (answer, t, asked ++ [row])

/-- The rows of the inputs that are not refused. -/
def accepted (before : ι → Except Schema.ParseError ρ) (inputs : List ι) : List ρ :=
  inputs.flatMap fun input => (before input).toOption.toList

/-- The pipeline runs in stages, whatever the query, the inputs and the first state are. The query
is asked once for each input that is not refused, in the order of the inputs and with their rows,
and every call does what `Call` says. -/
def StagedBy
    (pipeline : ∀ (m : Type → Type) [Monad m], (ρ → m (Except Failure α)) → ι → m (Except Error β))
    (before : ι → Except Schema.ParseError ρ) (after : α → Except Schema.ParseError β) : Prop :=
  ∀ (σ : Type) (query : ρ → StateM σ (Except Failure α)) (inputs : List ι) (s : σ),
    ∃ results t,
      (inputs.mapM (pipeline _ query)).run s = (results, t) ∧
      (inputs.mapM (pipeline _ (noted query))).run (s, []) = (results, t, accepted before inputs) ∧
      Calls before query after inputs s (accepted before inputs) results t

/-! ### Pipelines in stages -/

section Stages

variable {m : Type → Type} [Monad m]

/-- The result of an answer. -/
def finished (after : α → Except Schema.ParseError β) : Except Failure α → Except Error β
  | .ok raw => (after raw).mapError Error.rejected
  | .error cause => .error (Error.ofFailure cause)

/-- The pipeline that asks the query between two stages. -/
def staged (before : ι → Except Schema.ParseError ρ) (after : α → Except Schema.ParseError β)
    (query : ρ → m (Except Failure α)) (input : ι) : m (Except Error β) :=
  match before input with
  | .ok row => finished after <$> query row
  | .error e => pure (.error (.rejected e))

theorem mapError_ofFailure (answer : Except Failure α) :
    answer.mapError Error.ofFailure = finished .ok answer := by
  cases answer <;> rfl

theorem decodeAnswer_finished (decoder : Schema) (answer : Except Failure Json) :
    decodeAnswer decoder (finished .ok answer) = finished decoder.decode answer := by
  cases answer <;> rfl

variable [LawfulMonad m]

theorem ask_eq_map (query : m (Except Failure α)) : ask query = finished .ok <$> query := by
  simp only [ask, mapError_ofFailure, map_eq_pure_bind]

theorem encoded_eq_staged (encoder : Schema) (query : Json → m (Except Failure α)) :
    encoded encoder query = staged encoder.encode .ok query := by
  funext input
  rw [encoded, staged]
  cases encoder.encode input with
  | error e => rfl
  | ok row => exact ask_eq_map (query row)

theorem decoded_eq_staged (decoder : Schema) (query : ι → m (Except Failure Json)) :
    (fun input => decoded decoder (query input)) = staged .ok decoder.decode query := by
  funext input
  simp only [decoded, staged, ask_eq_map, ← map_eq_pure_bind, Functor.map_map,
    decodeAnswer_finished]

theorem coded_eq_staged (encoder decoder : Schema) (query : Json → m (Except Failure Json)) :
    coded encoder decoder query = staged encoder.encode decoder.decode query := by
  funext input
  rw [coded, encoded_eq_staged, staged, staged]
  cases encoder.encode input with
  | error e => exact pure_bind _ _
  | ok row => simp only [← map_eq_pure_bind, Functor.map_map, decodeAnswer_finished]

end Stages

/-! ### Runs -/

variable {before : ι → Except Schema.ParseError ρ} {after : α → Except Schema.ParseError β}

/-- What a call makes of the answer of the query. -/
theorem call_of_answer {query : ρ → StateM σ (Except Failure α)} {input : ι} {row : ρ} {s t : σ}
    {answer : Except Failure α} (hinput : before input = .ok row)
    (hquery : (query row).run s = (answer, t)) :
    Call before query after input s [row] (finished after answer) t := by
  cases answer with
  | error cause =>
    cases cause with
    | noResult => exact .notFound hinput hquery
    | other text source => exact .failed hinput hquery (fun h => by cases h)
  | ok raw =>
    cases hanswer : after raw with
    | error e =>
      rw [finished, hanswer]
      exact .unreadable hinput hquery hanswer
    | ok result =>
      rw [finished, hanswer]
      exact .answered hinput hquery hanswer

variable (query : ρ → StateM σ (Except Failure α))

/-- **Step.** One call, with the query and with the query that takes notes. -/
theorem call_staged (input : ι) (s : σ) (asked : List ρ) :
    ∃ result t,
      (staged before after query input).run s = (result, t) ∧
      (staged before after (noted query) input).run (s, asked) =
        (result, t, asked ++ (before input).toOption.toList) ∧
      Call before query after input s (before input).toOption.toList result t := by
  cases hinput : before input with
  | error e =>
    refine ⟨.error (.rejected e), s, ?_, ?_, .refused hinput⟩
    · rw [staged, hinput]
      rfl
    · rw [staged, hinput, Except.toOption, Option.toList_none, List.append_nil]
      rfl
  | ok row =>
    refine ⟨finished after ((query row).run s).1, ((query row).run s).2, ?_, ?_,
      call_of_answer hinput rfl⟩
    · rw [staged, hinput]
      rfl
    · rw [staged, hinput]
      rfl

theorem run_mapM_cons {γ : Type} {f : ι → StateM σ γ} {input : ι} {inputs : List ι} {s t u : σ}
    {result : γ} {results : List γ} (hfirst : (f input).run s = (result, t))
    (hothers : (inputs.mapM f).run t = (results, u)) :
    ((input :: inputs).mapM f).run s = (result :: results, u) := by
  rw [List.mapM_cons, StateT.run_bind, hfirst]
  show ((inputs.mapM f >>= fun rs => pure (result :: rs)) : StateM σ (List γ)).run t = _
  rw [StateT.run_bind, hothers]
  rfl

/-- **Run.** A sequence of calls, one step after another. -/
theorem calls_staged (inputs : List ι) (s : σ) (asked : List ρ) :
    ∃ results t,
      (inputs.mapM (staged before after query)).run s = (results, t) ∧
      (inputs.mapM (staged before after (noted query))).run (s, asked) =
        (results, t, asked ++ accepted before inputs) ∧
      Calls before query after inputs s (accepted before inputs) results t := by
  induction inputs generalizing s asked with
  | nil => exact ⟨[], s, rfl, by rw [accepted, List.flatMap_nil, List.append_nil]; rfl, .nil⟩
  | cons input inputs ih =>
    obtain ⟨result, t, hrun, hnoted, hcall⟩ := call_staged query input s asked
    obtain ⟨results, u, hruns, hnoteds, hcalls⟩ :=
      ih t (asked ++ (before input).toOption.toList)
    refine ⟨result :: results, u, run_mapM_cons hrun hruns, ?_, .cons hcall hcalls⟩
    rw [run_mapM_cons hnoted hnoteds, accepted, accepted, List.flatMap_cons, List.append_assoc]

theorem stagedBy_of_eq_staged
    {pipeline : ∀ (m : Type → Type) [Monad m], (ρ → m (Except Failure α)) → ι →
      m (Except Error β)}
    (h : ∀ (τ : Type) (query : ρ → StateM τ (Except Failure α)),
      pipeline _ query = staged before after query) : StagedBy pipeline before after := by
  intro σ query inputs s
  rw [h, h]
  exact calls_staged query inputs s []

/-- **Runs of pipelines.** All three pipelines run in stages, one without a decoder, one without an
encoder and one with both. The last one is the first one with its answers decoded, and the second
one asked with what has been encoded. -/
theorem runs_of_pipelines (encoder decoder : Schema) :
    StagedBy (fun _ _ => coded encoder decoder) encoder.encode decoder.decode ∧
      (∀ α : Type, StagedBy (α := α) (fun _ _ => encoded encoder) encoder.encode .ok) ∧
      StagedBy (fun _ _ query (input : Unit) => decoded decoder (query input)) .ok
        decoder.decode ∧
      ∀ (σ : Type) (query : Json → StateM σ (Except Failure Json)) (input : Json),
        coded encoder decoder query input =
            decodeAnswer decoder <$> encoded encoder query input ∧
          coded encoder decoder query input =
            match encoder.encode input with
            | .ok row => decoded decoder (query row)
            | .error e => pure (.error (.rejected e)) := by
  refine ⟨stagedBy_of_eq_staged fun _ query => coded_eq_staged encoder decoder query,
    fun α => stagedBy_of_eq_staged fun _ query => encoded_eq_staged encoder query,
    stagedBy_of_eq_staged fun _ query => decoded_eq_staged decoder query,
    fun σ query input => ⟨?_, ?_⟩⟩
  · rw [coded, map_eq_pure_bind]
  · rw [coded, encoded]
    cases encoder.encode input <;> rfl

/-- The second input does not reach the query, whose second failure has the lack of a row as its
source only. -/
example :
    (([.string "a", .int 1, .string "b"] : List Json).mapM
        (coded (.atom .string) .unknown (noted fun _ n =>
          (.error (if n = 0 then .noResult else .other "lost" (some .noResult)), n + 1)))).run
        (0, []) =
      ([.error .notFound, .error (.rejected ⟨[], .type (.atom .string) (.int 1)⟩),
        .error (.failed "lost" (.other "lost" (some .noResult)))], 2, [.string "a", .string "b"]) :=
  rfl

end RowSchema.Query
