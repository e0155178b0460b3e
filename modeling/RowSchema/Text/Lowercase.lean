import RowSchema.Text.Casing

/-!
# Lower-casing a text

Full lower-casing of the Unicode standard without language-specific rules: each character is
mapped on its own, with two exceptions. A capital sigma at the end of a word becomes the final
sigma, and a capital I with a dot above becomes two characters.

## Main definitions

* `lower` — the lower case of a text
* `endsWord` — the condition under which a sigma is final
-/

namespace RowSchema.Text

/-- Whether the first character of `cs` that is not case-ignorable is a cased letter. -/
def meetsCased (cs : List Char) : Bool :=
  match cs.dropWhile isCaseIgnorable with
  | c :: _ => isCased c
  | [] => false

/-- A letter ends a word when a cased letter stands before it and none follows. The text before
it is given backwards, nearest character first. -/
def endsWord (before after : List Char) : Bool :=
  meetsCased before && !meetsCased after

/-- Lower-cases the rest of a text of which `before` has been read, nearest character first. -/
def lowerAfter (before : List Char) : List Char → List Char
  | [] => []
  | c :: rest =>
    let mapped :=
      if c = 'Σ' then [if endsWord before rest then 'ς' else 'σ']
      else if c = 'İ' then ['i', '\u0307']
      else [simpleLower c]
    mapped ++ lowerAfter (c :: before) rest

/-- The lower case of a text. -/
def lower (s : String) : String :=
  String.ofList (lowerAfter [] s.toList)

end RowSchema.Text
