import RowSchema.Text.Lines

/-!
# Texts of one line

A text without control characters stays one line when a line feed is put behind it, whatever comes
after. So a transcript in which such texts stand one behind the other falls apart into them again.

## Main definitions

* `Text.IsLine` — no control character below the space occurs

## Main results

* `Text.lines_append_newline` — the first line of a text that begins with one
* `Text.lines_transcript` — the lines of a transcript are what has been written into it
-/

namespace RowSchema.Text

/-- No character below the space occurs, so neither a line feed nor a carriage return does. -/
def IsLine (cs : List Char) : Prop :=
  ∀ c ∈ cs, 0x20 ≤ c.toNat

@[simp]
theorem isLine_nil : IsLine [] := by
  simp [IsLine]

@[simp]
theorem isLine_cons {c : Char} {cs : List Char} :
    IsLine (c :: cs) ↔ 0x20 ≤ c.toNat ∧ IsLine cs := by
  simp [IsLine]

@[simp]
theorem isLine_append {cs ds : List Char} : IsLine (cs ++ ds) ↔ IsLine cs ∧ IsLine ds := by
  simp [IsLine, or_imp, forall_and]

theorem isLine_flatMap {α : Type} {xs : List α} {f : α → List Char} (h : ∀ x ∈ xs, IsLine (f x)) :
    IsLine (xs.flatMap f) := by
  intro c hc
  obtain ⟨x, hx, hc⟩ := List.mem_flatMap.1 hc
  exact h x hx c hc

theorem IsLine.newline_not_mem {cs : List Char} (h : IsLine cs) : '\n' ∉ cs :=
  fun hc => absurd (h _ hc) (by decide)

/-- A line ends at the first line feed. No carriage return is taken for a part of the line end,
because a line has none. -/
theorem lines_append_newline {cs : List Char} (h : IsLine cs) (rest : List Char) :
    lines (cs ++ '\n' :: rest) = cs :: lines rest := by
  induction cs with
  | nil => rw [List.nil_append, lines]
  | cons c cs ih =>
    obtain ⟨hc, hcs⟩ := isLine_cons.1 h
    have hr : c ≠ '\r' := by rintro rfl; exact absurd hc (by decide)
    have hn : c ≠ '\n' := by rintro rfl; exact absurd hc (by decide)
    rw [List.cons_append, lines, ih hcs, consLine]
    · rintro _ rfl
      exact absurd rfl hr
    · exact hn

/-- Lines that are written one behind the other are read back. -/
theorem lines_transcript {parts : List (List Char)} (h : ∀ part ∈ parts, IsLine part) :
    lines (parts.flatMap (· ++ ['\n'])) = parts := by
  induction parts with
  | nil => rfl
  | cons part rest ih =>
    have hpart : IsLine part := h part List.mem_cons_self
    have hrest : ∀ part ∈ rest, IsLine part := fun p hp => h p (List.mem_cons_of_mem _ hp)
    rw [List.flatMap_cons, List.append_assoc, List.singleton_append, lines_append_newline hpart,
      ih hrest]

end RowSchema.Text
