import RowSchema.Schema.Parse

/-!
# Queries between schemas

A query is an action that takes a stored value and answers with another one. A pipeline encodes
what it is given, asks the query and decodes the answer, and it stops at the first step that fails.

## Main definitions

* `Query.Failure` — what a query reports when it fails
* `Query.Error` — what a pipeline reports
* `Query.encoded`, `Query.decoded`, `Query.coded` — the pipelines

## Implementation notes

The pipelines work in any monad. With a state monad a run of calls can be followed: which of them
reached the query, and with which values. The log entry of a failed query is left out.
-/

namespace RowSchema.Query

/-- What a query reports when it fails. A failure may have another one as its source. -/
inductive Failure where
  /-- The statement found no row. -/
  | noResult
  | other (text : String) (source : Option Failure)
deriving Repr

/-- The text of a failure. -/
def Failure.text : Failure → String
  | .noResult => "no result"
  | .other text _ => text

/-- The failure behind a failure. -/
def Failure.source? : Failure → Option Failure
  | .noResult => none
  | .other _ source => source

/-- What a pipeline reports. -/
inductive Error where
  | notFound
  /-- The text of the failure is kept beside the failure itself. -/
  | failed (message : String) (cause : Failure)
  | rejected (error : Schema.ParseError)
deriving Repr

namespace Error

/-- Only a failure that is itself the lack of a row means that nothing was found. -/
def ofFailure : Failure → Error
  | .noResult => .notFound
  | cause => .failed cause.text cause

/-- The wording of an error. -/
def message : Error → String
  | .notFound => "no matching row"
  | .failed message _ => "query failed: " ++ message
  | .rejected error => "schema mismatch: " ++ error.message

/-- The text of what lies behind an error. -/
def sourceText? : Error → Option String
  | .notFound => none
  | .failed _ cause => some cause.text
  | .rejected error => some error.message

end Error

/-! ### Pipelines -/

variable {m : Type → Type} [Monad m] {α : Type}

/-- Asks a query and sorts its failures. -/
def ask (query : m (Except Failure α)) : m (Except Error α) :=
  return (← query).mapError Error.ofFailure

/-- Decodes an answer. -/
def decodeAnswer (decoder : Schema) : Except Error Json → Except Error Json
  | .ok raw => (decoder.decode raw).mapError Error.rejected
  | .error e => .error e

/-- Encodes the input and asks the query with it. -/
def encoded (encoder : Schema) (query : Json → m (Except Failure α)) (input : Json) :
    m (Except Error α) :=
  match encoder.encode input with
  | .ok row => ask (query row)
  | .error e => return .error (.rejected e)

/-- Asks the query and decodes its answer. -/
def decoded (decoder : Schema) (query : m (Except Failure Json)) : m (Except Error Json) :=
  return decodeAnswer decoder (← ask query)

/-- Encodes the input, asks the query with it and decodes its answer. -/
def coded (encoder decoder : Schema) (query : Json → m (Except Failure Json)) (input : Json) :
    m (Except Error Json) :=
  return decodeAnswer decoder (← encoded encoder query input)

end RowSchema.Query
