import RowSchema.Json.Basic
import RowSchema.Json.Fault

/-!
# The tokens of a JSON text

Names, numbers and strings. Each reader takes the text from the token on and gives what it has read
and what is left, or the first fault.

## Main definitions

* `Json.Shorter` — what is left of a text after at least one character of it has been read
* `Json.Remainder` — what is left of a text after any part of it has been read
* `Json.readWord`, `Json.readNumber`, `Json.readString` — the readers
* `Json.scale` — the float of a decimal significand and exponent

## Implementation notes

What is left carries the proof that it is shorter, so the readers built on these end by the length
of the text alone. Readers put such proofs together with the operations of `Shorter` and
`Remainder` and never state one of their own.

Significands are read into 64 bits. Digits that no longer fit count as powers of ten before the
point and are dropped after it. The float is then one multiplication or division by a power of ten
away, and that operation decides the rounding.
-/

namespace RowSchema.Json

/-! ### What is left of a text -/

/-- What is left of `cs` after at least one character of it. -/
abbrev Shorter (cs : List Char) := { rest : List Char // rest.length < cs.length }

/-- What is left of `cs` after any part of it, perhaps none. -/
abbrev Remainder (cs : List Char) := { rest : List Char // rest.length ≤ cs.length }

/-- The result of reading something at the start of `cs`. -/
abbrev Reading (α : Type) (cs : List Char) := Except Fault (α × Shorter cs)

namespace Remainder

/-- All of a text is left of it. -/
def all (cs : List Char) : Remainder cs :=
  ⟨cs, Nat.le_refl _⟩

/-- What is left of what is left. -/
def trans {cs : List Char} (r : Remainder cs) (s : Remainder r.1) : Remainder cs :=
  ⟨s.1, Nat.le_trans s.2 r.2⟩

/-- What is left of the tail is less than the whole. -/
def cons {c : Char} {cs : List Char} (r : Remainder cs) : Shorter (c :: cs) :=
  ⟨r.1, Nat.lt_succ_of_le r.2⟩

/-- What is left of what is left, the second part being known to be shorter. -/
def transShorter {cs : List Char} (r : Remainder cs) (s : Shorter r.1) : Shorter cs :=
  ⟨s.1, Nat.lt_of_lt_of_le s.2 r.2⟩

end Remainder

namespace Shorter

/-- Something shorter than a text is left of it. -/
def weaken {cs : List Char} (r : Shorter cs) : Remainder cs :=
  ⟨r.1, Nat.le_of_lt r.2⟩

/-- What is left of the tail is left of the whole. -/
def cons {c : Char} {cs : List Char} (r : Shorter cs) : Shorter (c :: cs) :=
  r.weaken.cons

/-- What is left of what is left, the first part being known to be shorter. -/
def transRemainder {cs : List Char} (r : Shorter cs) (s : Remainder r.1) : Shorter cs :=
  ⟨s.1, Nat.lt_of_le_of_lt s.2 r.2⟩

/-- What is left of what is left. -/
def trans {cs : List Char} (r : Shorter cs) (s : Shorter r.1) : Shorter cs :=
  r.transRemainder s.weaken

/-- The tail is left of the whole. -/
def tail (c : Char) (cs : List Char) : Shorter (c :: cs) :=
  (Remainder.all cs).cons

end Shorter

/-! ### White space -/

/-- The white space of JSON. -/
def isSpace (c : Char) : Bool :=
  c == ' ' || c == '\n' || c == '\t' || c == '\r'

/-- The text from its first visible character on. -/
def skipSpace (cs : List Char) : List Char :=
  cs.dropWhile isSpace

theorem length_skipSpace_le (cs : List Char) : (skipSpace cs).length ≤ cs.length :=
  (List.dropWhile_suffix isSpace).length_le

theorem length_le_of_skipSpace {cs rest : List Char} (h : skipSpace cs = rest) :
    rest.length ≤ cs.length :=
  h ▸ length_skipSpace_le cs

/-- What is left from the first visible character on. -/
def Remainder.ofSkip {cs rest : List Char} (h : skipSpace cs = rest) : Remainder cs :=
  ⟨rest, length_le_of_skipSpace h⟩

/-- What is left after the first visible character. -/
def Shorter.ofSkip {c : Char} {cs rest : List Char} (h : skipSpace cs = c :: rest) : Shorter cs :=
  (Remainder.ofSkip h).transShorter (.tail c rest)

/-! ### Words -/

/-- Reads the letters `expected`. -/
def readWord (expected : List Char) (cs : List Char) :
    Except Fault (Remainder cs) :=
  match expected, cs with
  | [], cs => .ok (.all cs)
  | _ :: _, [] => .error (.atEnd .eofValue)
  | e :: expected, c :: cs =>
    if c = e then (readWord expected cs).map fun r => r.cons.weaken
    else .error (.atNext .expectedIdent (c :: cs))

/-! ### Numbers -/

/-- A decimal digit. -/
def isDigit (c : Char) : Bool :=
  decide ('0' ≤ c) && decide (c ≤ '9')

/-- The value of a decimal digit. -/
def digitValue (c : Char) : Nat :=
  c.toNat - '0'.toNat

/-- Appends digits to a significand for as long as it stays below `bound`. Gives the significand
and the digits that did not fit. -/
def absorb (bound significand : Nat) : List Char → Nat × List Char
  | [] => (significand, [])
  | c :: rest =>
    let next := significand * 10 + digitValue c
    if next < bound then absorb bound next rest else (significand, c :: rest)

/-- `10 ^ n` as a float, for `n` up to 308. -/
def powerOfTen (n : Nat) : Float :=
  Float.ofScientific 1 false n

/-- The float for `significand * 10 ^ exponent`, or nothing if it is out of range. One scaling step
covers 308 powers of ten. A significand of 64 bits vanishes after two downward steps. -/
def scale (significand : Nat) (exponent : Int) : Option Float :=
  let f := (UInt64.ofNat significand).toFloat
  if 0 ≤ exponent then
    if exponent ≤ 308 then
      let scaled := f * powerOfTen exponent.toNat
      if scaled.isInf then none else some scaled
    else if significand = 0 then some f
    else none
  else if -308 ≤ exponent then some (f / powerOfTen (-exponent).toNat)
  else if -616 ≤ exponent then some (f / powerOfTen 308 / powerOfTen (-(exponent + 308)).toNat)
  else some (0.0 : Float)

/-- A float with its sign. -/
def signed (positive : Bool) (f : Float) : Number :=
  .float (.ofFloat (if positive then f else -f))

/-- The number of a scaled significand whose text ends before `rest`. -/
def scaledNumber (positive : Bool) (significand : Nat) (exponent : Int) (rest : List Char) :
    Except Fault Number :=
  match scale significand exponent with
  | some f => .ok (signed positive f)
  | none => .error (.before .numberOutOfRange rest)

/-- The digits at the start of a text. -/
def leadingDigits (cs : List Char) : List Char :=
  cs.takeWhile isDigit

/-- The text after its leading digits. -/
def afterDigits (cs : List Char) : List Char :=
  cs.dropWhile isDigit

theorem length_afterDigits_le (cs : List Char) : (afterDigits cs).length ≤ cs.length :=
  (List.dropWhile_suffix isDigit).length_le

/-- What is left after the leading digits. -/
def Remainder.afterDigits (cs : List Char) : Remainder cs :=
  ⟨Json.afterDigits cs, length_afterDigits_le cs⟩

/-- The text after a sign, if it starts with one. -/
def afterSign (cs : List Char) : List Char :=
  match cs with
  | [] => []
  | c :: rest => if c = '+' ∨ c = '-' then rest else c :: rest

theorem length_afterSign_le (cs : List Char) : (afterSign cs).length ≤ cs.length := by
  cases cs with
  | nil => exact Nat.le_refl _
  | cons c rest =>
    rw [afterSign]
    split <;> simp

/-- What is left after a sign. -/
def Remainder.afterSign (cs : List Char) : Remainder cs :=
  ⟨Json.afterSign cs, length_afterSign_le cs⟩

/-- Reads the exponent after its letter. An exponent beyond 31 bits makes any number but zero too
great, or zero. -/
def readExponent (positive : Bool) (significand : Nat) (start : Int) (cs : List Char) :
    Except Fault (Number × Remainder cs) :=
  let up := cs.head? != some '-'
  let digits := Remainder.afterSign cs
  match digits.1 with
  | [] => .error (.atEnd .eofValue)
  | c :: more =>
    if !isDigit c then .error (.atNext .invalidNumber (c :: more))
    else
      let rest := digits.trans (.afterDigits digits.1)
      match absorb (Nat.pow 2 31) 0 (leadingDigits digits.1) with
      | (exponent, []) =>
        (scaledNumber positive significand (if up then start + exponent else start - exponent)
          rest.1).map (·, rest)
      | (_, _ :: beyond) =>
        if significand ≠ 0 ∧ up then .error (.before .numberOutOfRange (beyond ++ rest.1))
        else .ok (signed positive 0.0, rest)

/-- Reads an exponent if one follows. -/
def readScale (positive : Bool) (significand : Nat) (exponent : Int) (cs : List Char) :
    Except Fault (Number × Remainder cs) :=
  match cs with
  | c :: rest =>
    if c = 'e' ∨ c = 'E' then
      (readExponent positive significand exponent rest).map fun (n, r) => (n, r.cons.weaken)
    else (scaledNumber positive significand exponent (c :: rest)).map (·, .all (c :: rest))
  | [] => (scaledNumber positive significand exponent []).map (·, .all [])

/-- Reads the digits after the point. -/
def readFraction (positive : Bool) (significand : Nat) (exponent : Int) (cs : List Char) :
    Except Fault (Number × Remainder cs) :=
  match leadingDigits cs with
  | [] => .error (if cs.isEmpty then .atEnd .eofValue else .atNext .invalidNumber cs)
  | digits =>
    let (significand, beyond) := absorb (Nat.pow 2 64) significand digits
    let taken := digits.length - beyond.length
    (readScale positive significand (exponent - taken) (afterDigits cs)).map fun (n, r) =>
      (n, (Remainder.afterDigits cs).trans r)

/-- An integer if it fits into 64 bits with its sign, and otherwise a float. Negative zero is a
float. -/
def integer (positive : Bool) (magnitude : Nat) : Number :=
  if positive then .int magnitude
  else if 0 < magnitude ∧ magnitude ≤ Nat.pow 2 63 then .int (-magnitude)
  else signed false (UInt64.ofNat magnitude).toFloat

/-- Reads what follows the digits before the point. `dropped` of them did not fit. -/
def readAfterInteger (positive : Bool) (significand dropped : Nat) (cs : List Char) :
    Except Fault (Number × Remainder cs) :=
  match cs with
  | '.' :: rest =>
    (readFraction positive significand dropped rest).map fun (n, r) => (n, r.cons.weaken)
  | c :: rest =>
    if dropped = 0 ∧ c ≠ 'e' ∧ c ≠ 'E' then
      .ok (integer positive significand, .all (c :: rest))
    else readScale positive significand dropped (c :: rest)
  | [] =>
    if dropped = 0 then .ok (integer positive significand, .all [])
    else readScale positive significand dropped []

/-- Reads a number after its sign. A leading zero stands alone. -/
def readMagnitude (positive : Bool) (cs : List Char) : Reading Number cs :=
  match cs with
  | [] => .error (.atEnd .eofValue)
  | c :: rest =>
    if c = '0' then
      if rest.head?.any isDigit then .error (.atNext .invalidNumber rest)
      else (readAfterInteger positive 0 0 rest).map fun (n, r) => (n, r.cons)
    else if isDigit c then
      let (significand, beyond) := absorb (Nat.pow 2 64) (digitValue c) (leadingDigits rest)
      (readAfterInteger positive significand beyond.length (afterDigits rest)).map fun (n, r) =>
        (n, ((Remainder.afterDigits rest).trans r).cons)
    else .error (.atNext .invalidNumber (c :: rest))

/-- Reads a number that starts with a digit or a minus sign. -/
def readNumber (cs : List Char) : Reading Number cs :=
  match cs with
  | '-' :: rest => (readMagnitude false rest).map fun (n, r) => (n, r.cons)
  | cs => readMagnitude true cs

/-! ### Strings -/

/-- The value of a hexadecimal digit of either case. -/
def hexValue? (c : Char) : Option Nat :=
  if isDigit c then some (digitValue c)
  else if 'a' ≤ c ∧ c ≤ 'f' then some (c.toNat - 'a'.toNat + 10)
  else if 'A' ≤ c ∧ c ≤ 'F' then some (c.toNat - 'A'.toNat + 10)
  else none

/-- The value of four hexadecimal digits. -/
def hexUnit? (a b c d : Char) : Option Nat := do
  let a ← hexValue? a
  let b ← hexValue? b
  let c ← hexValue? c
  let d ← hexValue? d
  return ((a * 16 + b) * 16 + c) * 16 + d

/-- Reads the four bytes of a `\u` escape as hexadecimal digits. -/
def readHexUnit (cs : List Char) : Reading Nat cs :=
  if byteSize (cs.take 4) < 4 then .error (.atEnd .eofString)
  else
    match cs with
    | a :: b :: c :: d :: rest =>
      match hexUnit? a b c d with
      | some n => .ok (n, (Shorter.tail d rest).cons.cons.cons)
      | none => .error ⟨.invalidEscape, a :: b :: c :: d :: rest, 4⟩
    | short => .error ⟨.invalidEscape, short, 4⟩

/-- The character that a letter after a backslash stands for. -/
def shortEscape? (c : Char) : Option Char :=
  match c with
  | '"' => some '"'
  | '\\' => some '\\'
  | '/' => some '/'
  | 'b' => some '\x08'
  | 'f' => some '\x0c'
  | 'n' => some '\n'
  | 'r' => some '\r'
  | 't' => some '\t'
  | _ => none

/-- Whether a UTF-16 unit opens a surrogate pair. -/
def isLeadingUnit (n : Nat) : Bool :=
  decide (0xD800 ≤ n) && decide (n ≤ 0xDBFF)

/-- Whether a UTF-16 unit closes a surrogate pair. -/
def isTrailingUnit (n : Nat) : Bool :=
  decide (0xDC00 ≤ n) && decide (n ≤ 0xDFFF)

/-- The character of a surrogate pair. -/
def pairedUnits (lead trail : Nat) : Char :=
  Char.ofNat (0x10000 + (lead - 0xD800) * 0x400 + (trail - 0xDC00))

/-- Reads the second half of a surrogate pair, which must be an escape of its own. -/
def readTrailingUnit (lead : Nat) (cs : List Char) : Reading Char cs :=
  match cs with
  | '\\' :: 'u' :: rest => do
    let (trail, r) ← readHexUnit rest
    if isTrailingUnit trail then return (pairedUnits lead trail, r.cons.cons)
    else throw (.before .loneSurrogate r.1)
  | '\\' :: rest =>
    .error (if rest.isEmpty then .atEnd .eofString else .atNext .unfinishedSurrogate rest)
  | rest => .error (if rest.isEmpty then .atEnd .eofString else .atNext .unfinishedSurrogate rest)

/-- Reads a `\u` escape after its letter. -/
def readUnicodeEscape (cs : List Char) : Reading Char cs := do
  let (n, r) ← readHexUnit cs
  if isTrailingUnit n then throw (.before .loneSurrogate r.1)
  else if isLeadingUnit n then
    let (c, r') ← readTrailingUnit n r.1
    return (c, r.trans r')
  else return (Char.ofNat n, r)

/-- Reads an escape after its backslash. -/
def readEscape (cs : List Char) : Reading Char cs :=
  match cs with
  | [] => .error (.atEnd .eofString)
  | 'u' :: rest => (readUnicodeEscape rest).map fun (c, r) => (c, r.cons)
  | c :: rest =>
    match shortEscape? c with
    | some x => .ok (x, .tail c rest)
    | none => .error (.atNext .invalidEscape (c :: rest))

/-- Reads the characters of a string up to its closing quote. -/
def readCharacters (cs : List Char) : Reading (List Char) cs :=
  match cs with
  | [] => .error (.atEnd .eofString)
  | '"' :: rest => .ok ([], .tail _ rest)
  | '\\' :: rest => do
    let (c, r) ← readEscape rest
    have := r.2
    let (more, r') ← readCharacters r.1
    return (c :: more, (r.trans r').cons)
  | c :: rest =>
    if c.toNat < 0x20 then .error (.atNext .controlCharacter (c :: rest))
    else do
      let (more, r) ← readCharacters rest
      return (c :: more, r.cons)
termination_by cs.length

/-- Reads a string after its opening quote. -/
def readString (cs : List Char) : Reading String cs :=
  (readCharacters cs).map fun (s, r) => (String.ofList s, r)

end RowSchema.Json
