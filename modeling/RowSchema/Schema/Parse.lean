import RowSchema.Json.Printer
import RowSchema.Schema.Accept
import RowSchema.Schema.Text

/-!
# Decoding and encoding

Decoding takes a stored value to the value in memory, encoding takes it back. Both check the value
against a schema; they differ only in the keys under which fields are read and written.

## Main definitions

* `Schema.parse` — both directions
* `Schema.decode`, `Schema.encode` — one direction each
* `Schema.ParseError` — where and why a value is rejected, with its message

## Implementation notes

A record is parsed to the list of its entries in the order of its properties, and only then put in
key order, so that of two properties with one written key the later one counts.
-/

namespace RowSchema.Schema

/-- Which way a value goes. -/
inductive Direction where
  | decode
  | encode
deriving DecidableEq, Repr

/-- The key under which a field is read. -/
def Direction.readKey {σ : Type} : Direction → Property σ → String
  | .decode, p => p.storedKey
  | .encode, p => p.name

/-- The key under which a field is written. -/
def Direction.writeKey {σ : Type} : Direction → Property σ → String
  | .decode, p => p.name
  | .encode, p => p.storedKey

/-! ### Errors -/

/-- A step into a value. A field is named by its name in memory in both directions. -/
inductive Segment where
  | key (name : String)
  | index (n : Nat)
deriving DecidableEq, Repr

/-- Why a value is rejected. -/
inductive Issue where
  | type (expected : Schema) (actual : Json)
  | missing
deriving DecidableEq, Repr

/-- A rejected value: the way to the part that is rejected, and the reason. -/
structure ParseError where
  path : List Segment
  issue : Issue
deriving DecidableEq, Repr

/-- The text of a step. -/
def Segment.text : Segment → String
  | .key name => "[" ++ Text.quoted name ++ "]"
  | .index n => "[" ++ toString n ++ "]"

/-- The wording of a reason. -/
def Issue.message : Issue → String
  | .type expected actual => "Expected " ++ expected.text ++ ", actual " ++ actual.text
  | .missing => "is missing"

/-- The message names the rejected part, unless that is the whole value. -/
def ParseError.message (e : ParseError) : String :=
  let place := if e.path.isEmpty then "" else String.join (e.path.map Segment.text) ++ ": "
  place ++ e.issue.message

/-- The whole value is not of the schema. -/
def ParseError.mismatch (expected : Schema) (actual : Json) : ParseError :=
  ⟨[], .type expected actual⟩

/-- The same error one step further out. -/
def ParseError.within (step : Segment) (e : ParseError) : ParseError :=
  { e with path := step :: e.path }

/-- Adds a step to the path of a failure. -/
def located {α : Type} (step : Segment) : Except ParseError α → Except ParseError α :=
  Except.mapError (ParseError.within step)

/-! ### Parsing -/

/-- Parses the elements of an array, the first of which has the index `n`. -/
def parseItems (item : Json → Except ParseError Json) (n : Nat) :
    List Json → Except ParseError (List Json)
  | [] => .ok []
  | j :: rest => do
    let first ← located (.index n) (item j)
    let others ← parseItems item (n + 1) rest
    return first :: others

mutual

/-- Parses a value in one direction. -/
def parse (d : Direction) : Schema → Json → Except ParseError Json
  | .atom a, j => if a.accepts j then .ok j else .error (.mismatch (.atom a) j)
  | .array item, j =>
    match j with
    | .array items => (parseItems (parse d item) 0 items).map .array
    | j => .error (.mismatch (.array item) j)
  | .union members, j =>
    match parseAny d members j with
    | some parsed => .ok parsed
    | none => .error (.mismatch (.union members) j)
  | .struct properties, j =>
    match j with
    | .object fields =>
      (parseFields d properties fields).map fun entries => .object (Dict.ofEntries entries)
    | j => .error (.mismatch (.struct properties) j)
  | .column select _ _, j => parse d select j

/-- The result of the first schema that accepts the value. -/
def parseAny (d : Direction) : List Schema → Json → Option Json
  | [], _ => none
  | m :: ms, j =>
    match parse d m j with
    | .ok parsed => some parsed
    | .error _ => parseAny d ms j

/-- The entries that the properties read from the fields of a record, in their order. -/
def parseFields (d : Direction) : List (Property Schema) → List (String × Json) →
    Except ParseError (List (String × Json))
  | [], _ => .ok []
  | p :: ps, fields =>
    match Dict.get? fields (d.readKey p) with
    | some j =>
      if j.isNull ∧ p.schema.omitsNull then parseFields d ps fields
      else do
        let parsed ← located (.key p.name) (parse d p.schema j)
        let others ← parseFields d ps fields
        return (d.writeKey p, parsed) :: others
    | none =>
      if p.optional then parseFields d ps fields
      else .error ⟨[.key p.name], .missing⟩

end

/-- The value in memory of a stored value. -/
def decode (s : Schema) (j : Json) : Except ParseError Json := s.parse .decode j

/-- The stored value of a value in memory. -/
def encode (s : Schema) (j : Json) : Except ParseError Json := s.parse .encode j

end RowSchema.Schema
