/-!
# UUIDs in texts

## Main definitions

* `isUuid` — whether a text is a UUID in its hyphenated form, with digits of either case
-/

namespace RowSchema

/-- A hexadecimal digit of either case. -/
def isHexDigit (c : Char) : Bool :=
  (decide ('0' ≤ c) && decide (c ≤ '9')) || (decide ('a' ≤ c) && decide (c ≤ 'f'))
    || (decide ('A' ≤ c) && decide (c ≤ 'F'))

/-- Whether the text consists of groups of hexadecimal digits of the given sizes, with a hyphen
between neighbouring groups. -/
def isHexGroups : List Nat → List Char → Bool
  | [], cs => cs.isEmpty
  | [n], cs => decide (cs.length = n) && cs.all isHexDigit
  | n :: sizes, cs =>
    decide ((cs.take n).length = n) && (cs.take n).all isHexDigit &&
      match cs.drop n with
      | '-' :: rest => isHexGroups sizes rest
      | _ => false

/-- Whether the text is a UUID: thirty-two digits in groups of 8, 4, 4, 4 and 12. -/
def isUuid (s : String) : Bool :=
  isHexGroups [8, 4, 4, 4, 12] s.toList

end RowSchema
