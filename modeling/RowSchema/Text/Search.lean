/-!
# Finding one text inside another

## Main definitions

* `contains` — whether a text occurs somewhere in another
* `contains_iff` — it says the same as the infix relation on lists of characters
-/

namespace RowSchema.Text

/-- Whether `part` occurs in the text as a run of neighbouring characters. -/
def contains (part : List Char) : List Char → Bool
  | [] => part.isEmpty
  | c :: rest => part.isPrefixOf (c :: rest) || contains part rest

theorem contains_iff {part cs : List Char} : contains part cs = true ↔ part <:+: cs := by
  induction cs with
  | nil => simp [contains]
  | cons c rest ih =>
    rw [contains, Bool.or_eq_true, List.isPrefixOf_iff_prefix, ih, List.infix_cons_iff]

end RowSchema.Text
