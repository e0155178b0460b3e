/-!
# Lines of a text

A line ends at a line feed, and a carriage return directly before that line feed belongs to the
line end. What follows the last line feed is a line too unless it is empty.

## Main definitions

* `lines` — the lines of a text without their ends
-/

namespace RowSchema.Text

/-- Puts `c` in front of the first line. -/
def consLine (c : Char) : List (List Char) → List (List Char)
  | [] => [[c]]
  | line :: rest => (c :: line) :: rest

/-- The lines of a text, in order, without their line ends. -/
def lines : List Char → List (List Char)
  | [] => []
  | '\r' :: '\n' :: rest => [] :: lines rest
  | '\n' :: rest => [] :: lines rest
  | c :: rest => consLine c (lines rest)

end RowSchema.Text
