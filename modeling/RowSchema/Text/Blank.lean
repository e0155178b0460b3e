/-!
# White space

The Unicode property `White_Space`, and texts made of nothing else.

## Main definitions

* `isBlank` — the property of one character
* `allBlank` — whether a text has no visible character
-/

namespace RowSchema.Text

/-- The characters of the property `White_Space`. -/
def blanks : List Char :=
  ['\t', '\n', '\x0b', '\x0c', '\r', ' ', '\u0085', '\u00a0', '\u1680', '\u2000', '\u2001',
    '\u2002', '\u2003', '\u2004', '\u2005', '\u2006', '\u2007', '\u2008', '\u2009', '\u200a',
    '\u2028', '\u2029', '\u202f', '\u205f', '\u3000']

/-- Whether `c` is white space. -/
def isBlank (c : Char) : Bool :=
  blanks.contains c

/-- Whether `cs` holds white space only. -/
def allBlank (cs : List Char) : Bool :=
  cs.all isBlank

end RowSchema.Text
