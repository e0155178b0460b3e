import RowSchema.Protocol.Response
import RowSchema.Text.Blank
import RowSchema.Text.Lines

/-!
# Serving requests

The host tool sends one request a line and waits for one line in answer to each.

## Main definitions

* `Protocol.respond` — answers a request
* `Protocol.answer` — answers a line
* `Protocol.serve` — answers a whole input
-/

namespace RowSchema.Protocol

variable {m : Type → Type} [Monad m]

/-- Generates as the parameters of a request say. -/
def generate (host : Host m) (params : Json) : m (Except Refusal Json) := do
  match Generator.Options.ofJson params with
  | .error mismatch => return .error (.invalidOptions mismatch)
  | .ok options =>
    match Generator.ofOutput options.output with
    | .error e => return .error (.failed e)
    | .ok generator =>
      match ← generator.run host options.document with
      | .error e => return .error (.failed e)
      | .ok _ => return .ok .null

/-- Answers a request. -/
def respond (host : Host m) (request : Request) : m Response := do
  match request.method with
  | "getManifest" => return ⟨request.id, .ok (Json.object [("manifest", manifest)]).value⟩
  | "generate" => return ⟨request.id, ← generate host request.params⟩
  | method => return ⟨request.id, .error (.unknownMethod method)⟩

/-- Answers a line. A line that is no request has no identifier to refer to. -/
def answer (host : Host m) (line : List Char) : m Response :=
  match Request.ofLine line with
  | .ok request => respond host request
  | .error fault => return ⟨.null, .error (.unreadable line fault)⟩

/-- The lines that are answered. -/
def requestLines (input : List Char) : List (List Char) :=
  (Text.lines input).filter (!Text.allBlank ·)

/-- The answers to an input, in the order of its lines. -/
def serve (host : Host m) (input : List Char) : m (List Response) :=
  (requestLines input).mapM (answer host)

end RowSchema.Protocol
