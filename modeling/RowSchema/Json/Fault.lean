/-!
# Faults of a JSON text

A fault of a text is a cause and a place. While a text is read the place is known by what is left
of the text; a message gives it by line and column.

## Main definitions

* `Json.Cause` — what can be wrong with the syntax, and its wording
* `Json.Located` — a cause of any kind together with its place
* `Json.Position` — line and column
* `Json.Located.position` — the position of a fault in the whole text

## Implementation notes

Columns count bytes of UTF-8. A complaint about a byte that has been seen counts that byte, and a
four-digit escape is consumed as four bytes wherever they end, so a place is the rest of the text
plus a number of bytes of that rest.
-/

namespace RowSchema.Json

/-- What can be wrong with the syntax of a text. -/
inductive Cause where
  | eofValue
  | eofList
  | eofObject
  | eofString
  | expectedColon
  | expectedListCommaOrEnd
  | expectedObjectCommaOrEnd
  | expectedIdent
  | expectedValue
  | invalidEscape
  | invalidNumber
  | numberOutOfRange
  | controlCharacter
  | keyMustBeString
  | loneSurrogate
  | unfinishedSurrogate
  | trailingComma
  | trailingCharacters
  | nestedTooDeep
deriving DecidableEq, Repr

/-- The wording of a cause. -/
def Cause.message : Cause → String
  | .eofValue => "EOF while parsing a value"
  | .eofList => "EOF while parsing a list"
  | .eofObject => "EOF while parsing an object"
  | .eofString => "EOF while parsing a string"
  | .expectedColon => "expected `:`"
  | .expectedListCommaOrEnd => "expected `,` or `]`"
  | .expectedObjectCommaOrEnd => "expected `,` or `\x7d`"
  | .expectedIdent => "expected ident"
  | .expectedValue => "expected value"
  | .invalidEscape => "invalid escape"
  | .invalidNumber => "invalid number"
  | .numberOutOfRange => "number out of range"
  | .controlCharacter => "control character (\\u0000-\\u001F) found while parsing a string"
  | .keyMustBeString => "key must be a string"
  | .loneSurrogate => "lone leading surrogate in hex escape"
  | .unfinishedSurrogate => "unexpected end of hex escape"
  | .trailingComma => "trailing comma"
  | .trailingCharacters => "trailing characters"
  | .nestedTooDeep => "recursion limit exceeded"

/-- A cause and its place: `rest` is what the text has from there on, of which `reach` bytes
belong to the complaint. -/
structure Located (κ : Type) where
  cause : κ
  rest : List Char
  reach : Nat
deriving DecidableEq, Repr

/-- A fault of the syntax. -/
abbrev Fault := Located Cause

/-- The text ends too early. -/
def Located.atEnd {κ : Type} (cause : κ) : Located κ := ⟨cause, [], 0⟩

/-- The next byte is the fault. -/
def Located.atNext {κ : Type} (cause : κ) (rest : List Char) : Located κ := ⟨cause, rest, 1⟩

/-- What has just been read is the fault. -/
def Located.before {κ : Type} (cause : κ) (rest : List Char) : Located κ := ⟨cause, rest, 0⟩

/-- The same place with another cause. -/
def Located.map {κ μ : Type} (f : κ → μ) (x : Located κ) : Located μ := ⟨f x.cause, x.rest, x.reach⟩

/-! ### Positions -/

/-- Lines count from one; the column is the number of bytes since the last line feed. -/
structure Position where
  line : Nat
  column : Nat
deriving DecidableEq, Repr

/-- The position `n` bytes further on, or at the end of the text if that comes first. -/
def Position.advance (p : Position) : List Char → Nat → Position
  | [], _ => p
  | c :: rest, n =>
    if n = 0 then p
    else if c = '\n' then advance ⟨p.line + 1, 0⟩ rest (n - 1)
    else if c.utf8Size ≤ n then advance ⟨p.line, p.column + c.utf8Size⟩ rest (n - c.utf8Size)
    else ⟨p.line, p.column + n⟩

/-- The number of bytes of a text. -/
def byteSize (cs : List Char) : Nat :=
  cs.foldl (fun n c => n + c.utf8Size) 0

/-- The position of a fault in `text`. -/
def Located.position {κ : Type} (text : List Char) (x : Located κ) : Position :=
  Position.advance ⟨1, 0⟩ text (byteSize text - byteSize x.rest + x.reach)

/-- How a position follows a wording. -/
def Position.suffix (p : Position) : String :=
  " at line " ++ toString p.line ++ " column " ++ toString p.column

/-- The message of a fault of `text`, given the wording of its cause. -/
def Located.message {κ : Type} (wording : κ → String) (text : List Char) (x : Located κ) : String :=
  wording x.cause ++ (x.position text).suffix

end RowSchema.Json
