import RowSchema.Command.Run
import RowSchema.Proofs.Json.Printer
import RowSchema.Proofs.Protocol.Request
import RowSchema.Proofs.Protocol.Step
import RowSchema.Store.FileTree

/-!
# One line for each request

The tool at the other end waits for one line in answer to each line that it sends, and tells the
answers apart by their identifiers.

## Main definitions

* `Protocol.errorCode?` — the code in the line of a response
* `Protocol.Answers` — what the tool can rely on about the answer to a line
* `Protocol.replies` — the answers to an input

## Main results

* `Protocol.serve_framed` — each line that is not blank is answered in one line, in order, and no
  line has an influence on the number, order or identifiers of the answers to the others

## Implementation notes

The machine is any that has states. What it does shows in the outcomes of generations only, so
nothing is asked of it. That a line is the JSON of its reply is a result of its own,
`Protocol.read_stderr`. A request may be read from a line that has no tree, because members that are
not looked at are only passed over; its identifier is then known from the request alone.
-/

namespace RowSchema.Protocol

/-- The code of the error that a response reports. -/
def errorCode? (reply : Json) : Option Json :=
  (reply.get? "error").bind (·.get? "code")

/-- What the answer to a line is sure to be, whatever the machine does. -/
structure Answers (line : List Char) (reply : Json) : Prop where
  one_line : '\n' ∉ reply.text.toList
  object : ∃ members, reply = .object members
  result_or_error : (reply.get? "result").isSome = !(reply.get? "error").isSome
  id_of_request : ∀ request, Request.ofLine line = .ok request →
    reply.get? "id" = some request.id
  /-- The identifier of the request is the one in the tree of the line, `null` if it has none. -/
  id_of_tree : ∀ request tree, Request.ofLine line = .ok request → Json.read line = .ok tree →
    reply.get? "id" = some (fieldOf tree "id" 2).value
  id_of_fault : ∀ fault, Request.ofLine line = .error fault → reply.get? "id" = some .null
  unreadable_iff : errorCode? reply = some (.int (-32700)) ↔
    ∃ fault, Request.ofLine line = .error fault
  unknown_iff : errorCode? reply = some (.int (-32601)) ↔
    ∃ request, Request.ofLine line = .ok request ∧
      request.method ≠ "getManifest" ∧ request.method ≠ "generate"
  generate_of_failed : errorCode? reply = some (.int (-32000)) →
    ∃ request, Request.ofLine line = .ok request ∧ request.method = "generate"

/-- The answers to an input, as trees. -/
def replies {σ : Type} (host : Host (StateM σ)) (s : σ) (input : String) : List Json :=
  ((serve host input.toList).run s).1.map Response.toJson

/-! ### Single answers -/

section Members

variable (id result : Json) (refusal : Refusal)

theorem get?_id_toJson (r : Response) : r.toJson.get? "id" = some r.id := by
  simp [Response.toJson, Json.get?, Json.object?, Dict.get?]

theorem result_or_error_toJson (r : Response) :
    (r.toJson.get? "result").isSome = !(r.toJson.get? "error").isSome := by
  obtain ⟨id, refusal | result⟩ := r <;>
    simp [Response.toJson, outcomeMember, Json.get?, Json.object?, Dict.get?]

@[simp]
theorem errorCode?_ok : errorCode? (Response.toJson ⟨id, .ok result⟩) = none := by
  simp [errorCode?, Response.toJson, outcomeMember, Json.get?, Json.object?, Dict.get?]

@[simp]
theorem errorCode?_error :
    errorCode? (Response.toJson ⟨id, .error refusal⟩) = some (.int refusal.code) := by
  simp [errorCode?, Response.toJson, outcomeMember, Json.get?, Json.object?, Dict.get?]

end Members

theorem id_of_step {σ : Type} {host : Host (StateM σ)} {line : List Char} {s t : σ}
    {response : Response} (h : Step host line s response t) {request : Request}
    (hread : Request.ofLine line = .ok request) : response.id = request.id := by
  cases h <;> simp_all

theorem answers_of_step {σ : Type} {host : Host (StateM σ)} {line : List Char} {s t : σ}
    {response : Response} (h : Step host line s response t) : Answers line response.toJson where
  one_line := (Json.isLine_text _).newline_not_mem
  object := ⟨_, rfl⟩
  result_or_error := result_or_error_toJson response
  id_of_request request hread := by
    rw [get?_id_toJson, id_of_step h hread]
  id_of_tree request tree hread htree := by
    rw [get?_id_toJson, id_of_step h hread, (reads_of_ofLine hread htree).id]
  id_of_fault fault hread := by
    rw [get?_id_toJson]
    cases h <;> simp_all
  unreadable_iff := by
    cases h <;> simp_all [Refusal.code]
  unknown_iff := by
    cases h <;> simp_all [Refusal.code]
  generate_of_failed := by
    cases h <;> simp_all [Refusal.code]

/-! ### All answers -/

/-- The identifier under which a line is answered. It is in the line alone. -/
def replyId (line : List Char) : Json :=
  match Request.ofLine line with
  | .ok request => request.id
  | .error _ => .null

theorem Answers.get?_id {line : List Char} {reply : Json} (h : Answers line reply) :
    reply.get? "id" = some (replyId line) := by
  unfold replyId
  split
  next request hread => exact h.id_of_request request hread
  next fault hread => exact h.id_of_fault fault hread

section Replies

variable {σ : Type} (host : Host (StateM σ)) (s : σ) (input : String)

theorem answers_replies :
    List.Forall₂ Answers (requestLines input.toList) (replies host s input) := by
  have hresponses : List.Forall₂ (fun line response => Answers line response.toJson)
      (requestLines input.toList) ((serve host input.toList).run s).1 :=
    (run_serve host input.toList s).forall₂ fun _ _ _ _ h => answers_of_step h.step
  rw [replies, List.forall₂_map_right_iff]
  exact hresponses

theorem ids_replies :
    (replies host s input).map (·.get? "id") =
      (requestLines input.toList).map fun line => some (replyId line) := by
  have h := answers_replies host s input
  generalize requestLines input.toList = lines at h
  generalize replies host s input = replies at h
  induction h with
  | nil => rfl
  | cons first _ ih => rw [List.map_cons, List.map_cons, first.get?_id, ih]

theorem lines_replies :
    Text.lines (String.join ((replies host s input).map (·.text ++ "\n"))).toList =
      (replies host s input).map (·.text.toList) := by
  have hlines : ∀ part ∈ (replies host s input).map (·.text.toList), Text.IsLine part := by
    intro part hpart
    obtain ⟨reply, -, rfl⟩ := List.mem_map.1 hpart
    exact reply.isLine_text
  rw [← Text.lines_transcript hlines]
  simp [String.toList_join, List.flatMap_map]

theorem stdout_replies :
    ((Command.run host [] input).run s).1 =
      ⟨0, "", String.join ((replies host s input).map (·.text ++ "\n"))⟩ := by
  have hparse : Command.parse [] = .serve := by decide
  simp only [Command.run, hparse, replies, List.map_map]
  rfl

end Replies

/-- **Framing.** The standard error holds one line for each line of the input that is not blank, in
order, and nothing else, and each of them answers its line. A line that is taken out takes its own
answer with it, and leaves the identifiers of all others as they were, whatever it holds and
whatever state the machine is in. -/
theorem serve_framed {σ : Type} (host : Host (StateM σ)) (s : σ) (input : String) :
    ((Command.run host [] input).run s).1 =
        ⟨0, "", String.join ((replies host s input).map (·.text ++ "\n"))⟩ ∧
      Text.lines (String.join ((replies host s input).map (·.text ++ "\n"))).toList =
        (replies host s input).map (·.text.toList) ∧
      List.Forall₂ Answers
        ((Text.lines input.toList).filter (!Text.allBlank ·)) (replies host s input) ∧
      ∀ (t : σ) (other : String) (before after : List (List Char)) (line : List Char),
        requestLines input.toList = before ++ line :: after →
        requestLines other.toList = before ++ after →
        (replies host t other).map (·.get? "id") =
          ((replies host s input).map (·.get? "id")).eraseIdx before.length := by
  refine ⟨stdout_replies host s input, lines_replies host s input, answers_replies host s input,
    fun t other before after line hinput hother => ?_⟩
  have hlength : (before.map fun line => some (replyId line)).length = before.length :=
    List.length_map _
  rw [ids_replies, ids_replies, hinput, hother, List.map_append, List.map_append, List.map_cons,
    ← hlength, List.eraseIdx_append_of_length_le le_rfl]
  simp

-- An identifier with a line break in it, a line of white space, and a line that is no request.
example : ((Command.run (FileTree.host ⟨0, 0⟩) []
      "\x7b\"method\":\"stop\",\"id\":[\"a\\nb\"]\x7d\n \t\r\nstop").run .empty).1.stderr =
    "\x7b\"jsonrpc\":\"2.0\",\"id\":[\"a\\nb\"],\"error\":" ++
      "\x7b\"code\":-32601,\"message\":\"Method not found: stop\"\x7d\x7d\n" ++
    "\x7b\"jsonrpc\":\"2.0\",\"id\":null,\"error\":" ++
      "\x7b\"code\":-32700,\"message\":\"expected value at line 1 column 1\"\x7d\x7d\n" := by
  decide +kernel

end RowSchema.Protocol
