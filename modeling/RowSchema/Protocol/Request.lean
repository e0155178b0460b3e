import RowSchema.Json.Form
import RowSchema.Json.Skip

/-!
# Requests

A request is one line of JSON: a method, its parameters and an identifier. It is read from the text
directly, so every fault has a position, also one of shape.

## Main definitions

* `Protocol.Request` — a request
* `Protocol.readRequest` — reads the request at the start of a text
* `Protocol.Request.ofLine` — reads a whole line

## Implementation notes

A request may be an object or an array. Members of an object under other keys are passed over with
`Json.skipValue`. A fault of shape is placed where the reader stands once it has tried to close the
request.
-/

namespace RowSchema.Protocol

open Json (Located Remainder Shorter readValue skipSpace)

/-- A request. -/
structure Request where
  method : String
  params : Json
  id : Json
deriving DecidableEq, Repr

/-- What can be wrong with a line. -/
inductive Cause where
  | malformed (cause : Json.Cause)
  | shape (mismatch : Json.Mismatch)
deriving DecidableEq, Repr

/-- The wording of a cause. -/
def Cause.message : Cause → String
  | .malformed cause => cause.message
  | .shape mismatch => mismatch.message

/-- A fault of a line. -/
abbrev Fault := Located Cause

/-- The result of reading something at the start of `cs`. -/
abbrev Reading (α : Type) (cs : List Char) := Except Fault (α × Shorter cs)

/-- A syntactic step as a step of reading a request. -/
def syntactic {α : Type} : Except Json.Fault α → Except Fault α :=
  Except.mapError (Located.map Cause.malformed)

/-- The fault of a text that starts with something else than `expected`. A value without brackets
is read first. -/
def wrongType (expected : String) (cs : List Char) : Fault :=
  match skipSpace cs with
  | '[' :: rest => .before (.shape (.type (.array []) expected)) ('[' :: rest)
  | '{' :: rest => .before (.shape (.type (.object []) expected)) ('{' :: rest)
  | leaf =>
    match Json.readLeaf leaf with
    | .ok (j, r) => .before (.shape (.type j expected)) r.1
    | .error fault => fault.map .malformed

/-- Reads the name of the method. -/
def readMethod (cs : List Char) : Reading String cs :=
  match h : skipSpace cs with
  | c :: rest =>
    if c = '"' then do
      let (name, r) ← syntactic (Json.readString rest)
      return (name, (Shorter.ofSkip h).trans r)
    else .error (wrongType "a string" cs)
  | [] => .error (wrongType "a string" cs)

/-- Reads any value. The request itself takes one level of the nesting. -/
def readAny (cs : List Char) : Reading Json cs := do
  let (j, r) ← syntactic (readValue (Json.maxDepth - 1) cs)
  return (j.value, r)

/-! ### Objects -/

/-- What has been read of a request. -/
structure Draft where
  method : Option String := none
  params : Option Json := none
  id : Option Json := none

/-- Whether the field `key` has been read. -/
def Draft.has (d : Draft) (key : String) : Bool :=
  match key with
  | "method" => d.method.isSome
  | "params" => d.params.isSome
  | "id" => d.id.isSome
  | _ => false

/-- Reads the value of the member `key` into the draft. -/
def readField (d : Draft) (key : String) (cs : List Char) : Reading Draft cs :=
  match key with
  | "method" => do
    let (name, r) ← readMethod cs
    return ({ d with method := some name }, r)
  | "params" => do
    let (j, r) ← readAny cs
    return ({ d with params := some j }, r)
  | "id" => do
    let (j, r) ← readAny cs
    return ({ d with id := some j }, r)
  | _ => do
    let r ← syntactic (Json.skipValue cs)
    return (d, r)

/-- Where the reader stands after it has tried to close an object. -/
def closingObject (cs : List Char) : List Char :=
  match skipSpace cs with
  | '}' :: rest => rest
  | rest => rest

/-- Reads members up to the closing brace, the key of the first having been read. -/
def readMembers (d : Draft) (key : String) (cs : List Char) : Reading Draft cs := do
  if d.has key then throw (.before (.shape (.duplicate key)) (closingObject cs))
  let r ← syntactic (Json.readColon cs)
  let (d, s) ← readField d key r.1
  let s := r.trans s
  let (more, t) ← syntactic
    (Json.readSeparator '}' .eofObject .expectedObjectCommaOrEnd s.1)
  let t := s.trans t
  if more then
    let (next, u) ← syntactic (Json.readNextKey t.1)
    let u := t.trans u
    have := u.2
    let (d, v) ← readMembers d next u.1
    return (d, u.trans v)
  else return (d, t)
termination_by cs.length

/-- The request of a draft that ends before `rest`. Only the method has to be there. -/
def Draft.request (d : Draft) (rest : List Char) : Except Fault Request :=
  match d.method with
  | some method => .ok ⟨method, d.params.getD .null, d.id.getD .null⟩
  | none => .error (.before (.shape (.missing "method")) rest)

/-- Reads a request after its opening brace. -/
def readObject (cs : List Char) : Reading Request cs :=
  match h : skipSpace cs with
  | [] => .error (.atEnd (.malformed .eofObject))
  | c :: rest =>
    if c = '}' then do
      let request ← Draft.request {} rest
      return (request, .ofSkip h)
    else do
      let (key, r) ← syntactic (Json.readKey .eofObject cs)
      let (d, s) ← readMembers {} key r.1
      let request ← d.request s.1
      return (request, r.trans s)

/-! ### Arrays -/

/-- Reads a further item if there is one, and `null` in its place at the closing bracket, which is
left where it is. -/
def readItem (cs : List Char) : Except Fault (Json × Remainder cs) :=
  match h : skipSpace cs with
  | [] => .error (.atEnd (.malformed .eofList))
  | c :: rest =>
    if c = ']' then .ok (.null, .all cs)
    else if c = ',' then
      if Json.sees ']' rest then
        .error (.atNext (.malformed .trailingComma) (skipSpace rest))
      else do
        let (j, r) ← readAny rest
        return (j, ((Shorter.ofSkip h).trans r).weaken)
    else .error (.atNext (.malformed .expectedListCommaOrEnd) (c :: rest))

/-- Reads the closing bracket. -/
def closeArray (cs : List Char) : Except Fault (Shorter cs) :=
  match h : skipSpace cs with
  | [] => .error (.atEnd (.malformed .eofList))
  | c :: rest =>
    if c = ']' then .ok (.ofSkip h)
    else if c = ',' then
      .error (.atNext
        (.malformed (if Json.sees ']' rest then .trailingComma else .trailingCharacters))
        (skipSpace rest))
    else .error (.atNext (.malformed .trailingCharacters) (c :: rest))

/-- Reads a request after its opening bracket. -/
def readArray (cs : List Char) : Reading Request cs :=
  match skipSpace cs with
  | [] => .error (.atEnd (.malformed .eofList))
  | c :: rest =>
    if c = ']' then
      .error (.before (.shape (.length 0 "struct Request with 3 elements")) rest)
    else do
      let (method, r) ← readMethod cs
      let (params, s) ← readItem r.1
      let (id, t) ← readItem s.1
      let u ← closeArray t.1
      return (⟨method, params, id⟩, r.transRemainder (s.trans (t.transShorter u).weaken))

/-! ### Lines -/

/-- Reads the request at the start of a text. -/
def readRequest (cs : List Char) : Reading Request cs :=
  match h : skipSpace cs with
  | '[' :: rest => do
    let (request, r) ← readArray rest
    return (request, (Shorter.ofSkip h).trans r)
  | '{' :: rest => do
    let (request, r) ← readObject rest
    return (request, (Shorter.ofSkip h).trans r)
  | _ => .error (wrongType "struct Request" cs)

/-- Reads a line that holds one request. -/
def Request.ofLine (line : List Char) : Except Fault Request := do
  let (request, rest) ← readRequest line
  syntactic (Json.checkEnd rest.1)
  return request

end RowSchema.Protocol
