import RowSchema.Json.Token

/-!
# Reading JSON

Takes a text apart into a tree, or finds its first fault.

## Main definitions

* `Json.readValue` — the tree at the start of a text, and what is left
* `Json.read` — the tree of a whole text
* `Json.maxDepth` — how deep brackets may nest

## Implementation notes

`readValue` recurses on the number of levels that may still be opened, and the loops over items and
members recurse on the length of the text, with the reader for one level deeper as a parameter.
-/

namespace RowSchema.Json

/-! ### Punctuation -/

/-- Reads what follows an item or a member: `true` after a comma, `false` after `close`. -/
def readSeparator (close : Char) (eof missing : Cause) (cs : List Char) : Reading Bool cs :=
  match h : skipSpace cs with
  | [] => .error (.atEnd eof)
  | c :: rest =>
    if c = close then .ok (false, .ofSkip h)
    else if c = ',' then .ok (true, .ofSkip h)
    else .error (.atNext missing (c :: rest))

/-- Whether the next visible character is `c`. -/
def sees (c : Char) (cs : List Char) : Bool :=
  (skipSpace cs).head? == some c

/-- Reads the key of a member. -/
def readKey (eof : Cause) (cs : List Char) : Reading String cs :=
  match h : skipSpace cs with
  | [] => .error (.atEnd eof)
  | c :: rest =>
    if c = '"' then do
      let (key, r) ← readString rest
      return (key, (Shorter.ofSkip h).trans r)
    else .error (.atNext .keyMustBeString (c :: rest))

/-- Reads the colon after a key. -/
def readColon (cs : List Char) : Except Fault (Shorter cs) :=
  match h : skipSpace cs with
  | [] => .error (.atEnd .eofObject)
  | c :: rest =>
    if c = ':' then .ok (.ofSkip h) else .error (.atNext .expectedColon (c :: rest))

/-- Reads the key after a comma. A closing brace in its place is a comma too many. -/
def readNextKey (cs : List Char) : Reading String cs :=
  if sees '}' cs then .error (.atNext .trailingComma (skipSpace cs)) else readKey .eofValue cs

/-! ### Arrays and objects -/

section Nested

variable {α : Type} (item : (cs : List Char) → Reading α cs)

/-- Reads items up to the closing bracket. There is at least one. -/
def readItems (cs : List Char) : Reading (List α) cs := do
  let (first, r) ← item cs
  let (more, s) ← readSeparator ']' .eofList .expectedListCommaOrEnd r.1
  let s := r.trans s
  have := s.2
  if more then
    if sees ']' s.1 then throw (.atNext .trailingComma (skipSpace s.1))
    let (others, t) ← readItems s.1
    return (first :: others, s.trans t)
  else return ([first], s)
termination_by cs.length

/-- Reads an array after its opening bracket. -/
def readArray (cs : List Char) : Reading (List α) cs :=
  match h : skipSpace cs with
  | [] => .error (.atEnd .eofList)
  | c :: rest =>
    if c = ']' then .ok ([], .ofSkip h)
    else do
      let (items, r) ← readItems item (c :: rest)
      return (items, (Remainder.ofSkip h).transShorter r)

/-- Reads members up to the closing brace, the key of the first having been read. -/
def readMembers (key : String) (cs : List Char) : Reading (List (String × α)) cs := do
  let r ← readColon cs
  let (first, s) ← item r.1
  let s := r.trans s
  let (more, t) ← readSeparator '}' .eofObject .expectedObjectCommaOrEnd s.1
  let t := s.trans t
  if more then
    let (next, u) ← readNextKey t.1
    let u := t.trans u
    have := u.2
    let (others, v) ← readMembers next u.1
    return ((key, first) :: others, u.trans v)
  else return ([(key, first)], t)
termination_by cs.length

/-- Reads an object after its opening brace. -/
def readObject (cs : List Char) : Reading (List (String × α)) cs :=
  match h : skipSpace cs with
  | [] => .error (.atEnd .eofObject)
  | c :: _ =>
    if c = '}' then .ok ([], .ofSkip h)
    else do
      let (key, r) ← readKey .eofObject cs
      let (members, s) ← readMembers item key r.1
      return (members, r.trans s)

end Nested

/-! ### Trees -/

/-- Reads a tree without brackets at the start of a text. -/
def readLeaf (cs : List Char) : Reading Json cs :=
  match cs with
  | [] => .error (.atEnd .eofValue)
  | 'n' :: rest =>
    (readWord ['u', 'l', 'l'] rest).map fun r => (.null, r.cons)
  | 't' :: rest =>
    (readWord ['r', 'u', 'e'] rest).map fun r => (.bool true, r.cons)
  | 'f' :: rest =>
    (readWord ['a', 'l', 's', 'e'] rest).map fun r => (.bool false, r.cons)
  | '"' :: rest => (readString rest).map fun (s, r) => (.string s, r.cons)
  | c :: rest =>
    if c = '-' ∨ isDigit c then (readNumber (c :: rest)).map fun (n, r) => (.number n, r)
    else .error (.atNext .expectedValue (c :: rest))

/-- Reads the tree at the start of a text, in which at most `depth` brackets may be open at a
time. -/
def readValue (depth : Nat) (cs : List Char) : Reading Json cs :=
  match h : skipSpace cs with
  | '[' :: rest =>
    match depth with
    | 0 => .error (.atNext .nestedTooDeep ('[' :: rest))
    | depth + 1 => do
      let (items, r) ← readArray (readValue depth) rest
      return (.array items, (Shorter.ofSkip h).trans r)
  | '{' :: rest =>
    match depth with
    | 0 => .error (.atNext .nestedTooDeep ('{' :: rest))
    | depth + 1 => do
      let (members, r) ← readObject (readValue depth) rest
      return (.object members, (Shorter.ofSkip h).trans r)
  | leaf => do
    let (j, r) ← readLeaf leaf
    return (j, (Remainder.ofSkip h).transShorter r)

/-- The greatest number of brackets that may be open at a time. -/
def maxDepth : Nat := 127

/-- Fails unless only white space is left. -/
def checkEnd (cs : List Char) : Except Fault Unit :=
  match skipSpace cs with
  | [] => .ok ()
  | rest => .error (.atNext .trailingCharacters rest)

/-- The tree of a whole text. -/
def read (cs : List Char) : Except Fault Json := do
  let (j, r) ← readValue maxDepth cs
  checkEnd r.1
  return j

end RowSchema.Json
