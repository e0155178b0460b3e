import RowSchema.Json.Reader

/-!
# Passing over a JSON value

A member whose key means nothing to the reader is passed over without a tree. The text still has to
be JSON, but the rules are those of a scanner: brackets nest without limit, a number may have any
size, and an escape may be half of a surrogate pair.

## Main definitions

* `Json.skipValue` — what is left after the value at the start of a text

## Implementation notes

The open brackets are kept on a list, so nesting needs no bound: the two functions of the loop
recurse on the length of the text alone.

A control character is found without being taken, so its fault stands one byte before the one that
the reader of strings gives.
-/

namespace RowSchema.Json

/-! ### Numbers -/

/-- Passes over an exponent after its letter. -/
def skipExponent (cs : List Char) : Except Fault (Remainder cs) :=
  let digits := Remainder.afterSign cs
  if digits.1.head?.any isDigit then .ok (digits.trans (.afterDigits digits.1))
  else .error (.atNext .invalidNumber digits.1)

/-- Passes over an exponent if one follows. -/
def skipScale (cs : List Char) : Except Fault (Remainder cs) :=
  match cs with
  | c :: rest =>
    if c = 'e' ∨ c = 'E' then (skipExponent rest).map fun r => r.cons.weaken
    else .ok (.all (c :: rest))
  | [] => .ok (.all [])

/-- Passes over what follows the digits before the point. -/
def skipAfterInteger (cs : List Char) : Except Fault (Remainder cs) :=
  match cs with
  | '.' :: rest =>
    if rest.head?.any isDigit then
      (skipScale (afterDigits rest)).map fun r =>
        ((Remainder.afterDigits rest).trans r).cons.weaken
    else .error (.atNext .invalidNumber rest)
  | cs => skipScale cs

/-- Passes over a number after its sign. -/
def skipMagnitude (cs : List Char) : Except Fault (Shorter cs) :=
  match cs with
  | [] => .error (.atEnd .invalidNumber)
  | c :: rest =>
    if c = '0' then
      if rest.head?.any isDigit then .error (.atNext .invalidNumber rest)
      else (skipAfterInteger rest).map Remainder.cons
    else if isDigit c then
      (skipAfterInteger (afterDigits rest)).map fun r =>
        ((Remainder.afterDigits rest).trans r).cons
    else .error (.atNext .invalidNumber (c :: rest))

/-! ### Strings -/

/-- Passes over an escape after its backslash. -/
def skipEscape (cs : List Char) : Except Fault (Shorter cs) :=
  match cs with
  | [] => .error (.atEnd .eofString)
  | 'u' :: rest => (readHexUnit rest).map fun (_, r) => r.cons
  | c :: rest =>
    if (shortEscape? c).isSome then .ok (.tail c rest)
    else .error (.atNext .invalidEscape (c :: rest))

/-- Passes over the characters of a string up to its closing quote. -/
def skipString (cs : List Char) : Except Fault (Shorter cs) :=
  match cs with
  | [] => .error (.atEnd .eofString)
  | '"' :: rest => .ok (.tail _ rest)
  | '\\' :: rest => do
    let r ← skipEscape rest
    have := r.2
    let s ← skipString r.1
    return (r.trans s).cons
  | c :: rest =>
    if c.toNat < 0x20 then .error (.before .controlCharacter (c :: rest))
    else (skipString rest).map Shorter.cons
termination_by cs.length

/-- Passes over the key of a member and its colon. -/
def skipKey (cs : List Char) : Except Fault (Shorter cs) :=
  match h : skipSpace cs with
  | [] => .error (.atEnd .eofObject)
  | c :: rest =>
    if c = '"' then do
      let r ← skipString rest
      let s ← readColon r.1
      return (Shorter.ofSkip h).trans (r.trans s)
    else .error (.atNext .keyMustBeString (c :: rest))

/-! ### Values -/

/-- Passes over a value without brackets at the start of a text. -/
def skipLeaf (cs : List Char) : Except Fault (Shorter cs) :=
  match cs with
  | [] => .error (.atEnd .eofValue)
  | 'n' :: rest => (readWord ['u', 'l', 'l'] rest).map Remainder.cons
  | 't' :: rest => (readWord ['r', 'u', 'e'] rest).map Remainder.cons
  | 'f' :: rest => (readWord ['a', 'l', 's', 'e'] rest).map Remainder.cons
  | '"' :: rest => (skipString rest).map Shorter.cons
  | '-' :: rest => (skipMagnitude rest).map Shorter.cons
  | c :: rest =>
    if isDigit c then skipMagnitude (c :: rest) else .error (.atNext .expectedValue (c :: rest))

/-- A bracket that is still open. -/
inductive Opened where
  | list
  | object
deriving DecidableEq, Repr

mutual

/-- Passes over a value and everything up to the end of the brackets that are open around it. -/
def skipWithin (opened : List Opened) (cs : List Char) : Except Fault (Shorter cs) :=
  match h : skipSpace cs with
  | '[' :: rest =>
    have := (Shorter.ofSkip h).2
    if sees ']' rest then
      (closeWithin (.list :: opened) rest).map (Shorter.ofSkip h).transRemainder
    else if (skipSpace rest).isEmpty then throw (.atEnd .eofList)
    else (skipWithin (.list :: opened) rest).map (Shorter.ofSkip h).trans
  | '{' :: rest =>
    have := (Shorter.ofSkip h).2
    if sees '}' rest then
      (closeWithin (.object :: opened) rest).map (Shorter.ofSkip h).transRemainder
    else do
      let r ← skipKey rest
      let r := (Shorter.ofSkip h).trans r
      have := r.2
      let s ← skipWithin (.object :: opened) r.1
      return r.trans s
  | leaf => do
    let r ← skipLeaf leaf
    let r := (Remainder.ofSkip h).transShorter r
    have := r.2
    let s ← closeWithin opened r.1
    return r.transRemainder s
termination_by cs.length

/-- After a value: closes brackets, or passes over the next item or member of the innermost one. -/
def closeWithin (opened : List Opened) (cs : List Char) : Except Fault (Remainder cs) :=
  match opened with
  | [] => .ok (.all cs)
  | .list :: outer => do
    let (more, r) ← readSeparator ']' .eofList .expectedListCommaOrEnd cs
    have := r.2
    if more then
      let s ← skipWithin (.list :: outer) r.1
      return (r.trans s).weaken
    else
      let s ← closeWithin outer r.1
      return (r.transRemainder s).weaken
  | .object :: outer => do
    let (more, r) ← readSeparator '}' .eofObject .expectedObjectCommaOrEnd cs
    have := r.2
    if more then
      let s ← skipKey r.1
      let s := r.trans s
      have := s.2
      let t ← skipWithin (.object :: outer) s.1
      return (s.trans t).weaken
    else
      let s ← closeWithin outer r.1
      return (r.transRemainder s).weaken
termination_by cs.length

end

/-- What is left after the value at the start of a text. -/
def skipValue (cs : List Char) : Except Fault (Shorter cs) :=
  skipWithin [] cs

end RowSchema.Json
