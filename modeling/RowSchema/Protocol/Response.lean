import RowSchema.Generator
import RowSchema.Protocol.Request

/-!
# Responses

A response answers one request, in one line of JSON, with a result or an error.

## Main definitions

* `Protocol.Response` — a response, with `Protocol.Response.text` for its line
* `Protocol.Refusal` — an error, with its code
* `Protocol.manifest` — how the generator presents itself
-/

namespace RowSchema.Protocol

/-- Why a request is refused. -/
inductive Refusal where
  /-- The line is not a request. -/
  | unreadable (line : List Char) (fault : Fault)
  | unknownMethod (method : String)
  /-- The parameters of a request for generation do not say what to generate. -/
  | invalidOptions (mismatch : Json.Mismatch)
  /-- The generation has failed. -/
  | failed (error : Generator.Error)
deriving DecidableEq, Repr

/-- The code of a refusal. Everything that goes wrong with a generation has one code. -/
def Refusal.code : Refusal → Int
  | .unreadable .. => -32700
  | .unknownMethod _ => -32601
  | .invalidOptions _ => -32000
  | .failed _ => -32000

/-- The wording of a refusal. -/
def Refusal.message : Refusal → String
  | .unreadable line fault => fault.message Cause.message line
  | .unknownMethod method => "Method not found: " ++ method
  | .invalidOptions mismatch => mismatch.message
  | .failed error => error.message

/-- The answer to the request with the given identifier. -/
structure Response where
  id : Json
  outcome : Except Refusal Json

/-- The member that tells a result from an error. -/
def outcomeMember : Except Refusal Json → String × Json
  | .ok result => ("result", result)
  | .error refusal =>
    ("error", .object [("code", .int refusal.code), ("message", .string refusal.message)])

/-- The response as a tree. -/
def Response.toJson (r : Response) : Json :=
  .object [("jsonrpc", .string "2.0"), ("id", r.id), outcomeMember r.outcome]

/-- The line of a response, without its end. -/
def Response.text (r : Response) : String :=
  r.toJson.text

/-- How the generator presents itself, in the order in which it is shown to people. -/
def manifest : Json :=
  .object [
    ("version", .string "0.1.0"),
    ("defaultOutput", .string "../generated"),
    ("prettyName", .string "Prisma Effect Kysely Schema Generator"),
    ("requiresGenerators", .array [.string "prisma-client-js"])]

end RowSchema.Protocol
