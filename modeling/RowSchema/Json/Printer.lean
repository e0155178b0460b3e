import RowSchema.Decimal.Layout
import RowSchema.Json.Basic

/-!
# Writing JSON

Two ways to write a tree: compact, without any white space, and indented by two spaces a level.

## Main definitions

* `Json.text` — the compact text
* `Json.pretty` — the indented text
* `Json.floatLayout` — how floats are written
-/

namespace RowSchema.Json

open Decimal (Layout)

/-- Floats are positional while the leading digit stands for `0.00001` to `10 ^ 15`. -/
def floatLayout : Layout := ⟨-5, 15⟩

/-- The text of a number. -/
def Number.text : Number → String
  | .int n => toString n
  | .float x => floatLayout.render x

/-- A hexadecimal digit. -/
def hexDigit (n : Nat) : Char :=
  Nat.digitChar n

/-- What stands for `c` inside the quotes: quote, backslash and the characters below the space are
escaped. -/
def escape (c : Char) : List Char :=
  if c = '"' then ['\\', '"']
  else if c = '\\' then ['\\', '\\']
  else if c = '\x08' then ['\\', 'b']
  else if c = '\x0c' then ['\\', 'f']
  else if c = '\n' then ['\\', 'n']
  else if c = '\r' then ['\\', 'r']
  else if c = '\t' then ['\\', 't']
  else if c.toNat < 0x20 then
    ['\\', 'u', '0', '0', hexDigit (c.toNat / 16), hexDigit (c.toNat % 16)]
  else [c]

/-- A string in quotes. -/
def quote (s : String) : String :=
  String.ofList ('"' :: s.toList.flatMap escape ++ ['"'])

mutual

/-- The compact text. -/
def text : Json → String
  | .null => "null"
  | .bool b => if b then "true" else "false"
  | .number n => n.text
  | .string s => quote s
  | .array items => "[" ++ String.intercalate "," (itemTexts items) ++ "]"
  | .object members => "\x7b" ++ String.intercalate "," (memberTexts members) ++ "\x7d"

/-- The compact texts of the items. -/
def itemTexts : List Json → List String
  | [] => []
  | item :: rest => item.text :: itemTexts rest

/-- The compact texts of the members, key and value separated by a colon. -/
def memberTexts : List (String × Json) → List String
  | [] => []
  | (key, item) :: rest => (quote key ++ ":" ++ item.text) :: memberTexts rest

end

theorem itemTexts_eq_map (items : List Json) : itemTexts items = items.map text := by
  induction items with
  | nil => rfl
  | cons item rest ih => rw [itemTexts, ih, List.map_cons]

theorem memberTexts_eq_map (members : List (String × Json)) :
    memberTexts members = members.map fun (key, item) => quote key ++ ":" ++ item.text := by
  induction members with
  | nil => rfl
  | cons entry rest ih => rw [memberTexts, ih, List.map_cons]

/-- A line break and the indentation of level `depth`. -/
def newLine (depth : Nat) : String :=
  String.ofList ('\n' :: List.replicate (2 * depth) ' ')

/-- Parts between brackets, one on each line at level `depth + 1`. Without parts the brackets
touch. -/
def block (open_ close : String) (depth : Nat) (parts : List String) : String :=
  if parts.isEmpty then open_ ++ close
  else
    open_ ++ newLine (depth + 1) ++ String.intercalate ("," ++ newLine (depth + 1)) parts
      ++ newLine depth ++ close

mutual

/-- The indented text of a tree that stands at level `depth`. -/
def prettyAt (depth : Nat) : Json → String
  | .array items => block "[" "]" depth (prettyItems (depth + 1) items)
  | .object members => block "\x7b" "\x7d" depth (prettyMembers (depth + 1) members)
  | .null => "null"
  | .bool b => if b then "true" else "false"
  | .number n => n.text
  | .string s => quote s

/-- The indented texts of the items of an array. -/
def prettyItems (depth : Nat) : List Json → List String
  | [] => []
  | item :: rest => item.prettyAt depth :: prettyItems depth rest

/-- The indented texts of the members of an object. -/
def prettyMembers (depth : Nat) : List (String × Json) → List String
  | [] => []
  | (key, item) :: rest => (quote key ++ ": " ++ item.prettyAt depth) :: prettyMembers depth rest

end

/-- The indented text. -/
def pretty (j : Json) : String :=
  j.prettyAt 0

end RowSchema.Json
