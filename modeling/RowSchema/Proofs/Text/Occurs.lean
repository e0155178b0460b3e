import RowSchema.Text.Search

/-!
# Texts in other texts

One text occurs in another if it stands somewhere in it. When texts are joined with a separator,
each of them stands in the whole with what the separator puts around it. Conversely, a text that is
found in the whole need not stand in any of the parts, since it may lie across a separator; if it
does not hold the separator it cannot.

## Main definitions

* `Text.Occurs` — one text is somewhere in another

## Main results

* `Text.contains_toList_iff`, `isSuffixOf_toList_iff` — the searches find what occurs
* `Text.occurs_intercalate` — the parts of a list, with what stands around each of them
* `Text.occurs_intercalate_iff` — what occurs in a list occurs in one of its parts
-/

namespace RowSchema.Text

/-- The text `part` is somewhere in `whole`. -/
def Occurs (part whole : String) : Prop :=
  ∃ before after, whole = before ++ part ++ after

variable {part middle whole : String} {parts : List String}

theorem Occurs.refl (s : String) : Occurs s s :=
  ⟨"", "", by rw [String.empty_append, String.append_empty]⟩

theorem Occurs.trans (h : Occurs part middle) (h' : Occurs middle whole) : Occurs part whole := by
  obtain ⟨before, after, rfl⟩ := h
  obtain ⟨before', after', rfl⟩ := h'
  exact ⟨before' ++ before, after ++ after', by simp only [String.append_assoc]⟩

theorem Occurs.of_eq (heq : part = middle) (h : Occurs middle whole) : Occurs part whole :=
  heq ▸ h

/-- A part of a list stands between the end of one separator and the start of another. Around the
list itself the same two texts are needed. -/
theorem occurs_intercalate (sep opening closing : String) {s s' : String}
    (hopening : sep = s ++ opening) (hclosing : sep = closing ++ s') (h : part ∈ parts) :
    Occurs (opening ++ part ++ closing) (opening ++ String.intercalate sep parts ++ closing) := by
  induction parts with
  | nil => cases h
  | cons first rest ih =>
    cases rest with
    | nil =>
      obtain rfl := List.mem_singleton.mp h
      rw [String.intercalate_singleton]
      exact .refl _
    | cons next rest =>
      rw [String.intercalate_cons_cons]
      generalize String.intercalate sep (next :: rest) = others at ih ⊢
      rcases List.mem_cons.mp h with rfl | h
      · refine ⟨"", s' ++ others ++ closing, ?_⟩
        rw [hclosing, String.empty_append]
        simp only [String.append_assoc]
      · refine (ih h).trans ⟨opening ++ first ++ s, "", ?_⟩
        rw [hopening, String.append_empty]
        simp only [String.append_assoc]

/-! ### Searching -/

theorem occurs_iff_infix : Occurs part whole ↔ part.toList <:+: whole.toList := by
  constructor
  · rintro ⟨before, after, rfl⟩
    rw [String.toList_append, String.toList_append]
    exact List.infix_append _ _ _
  · rintro ⟨before, after, h⟩
    refine ⟨String.ofList before, String.ofList after, ?_⟩
    rw [← String.toList_inj, ← h]
    simp only [String.toList_append, String.toList_ofList]

theorem contains_toList_iff : contains part.toList whole.toList = true ↔ Occurs part whole :=
  contains_iff.trans occurs_iff_infix.symm

theorem isSuffixOf_toList_iff :
    part.toList.isSuffixOf whole.toList = true ↔ ∃ stem, whole = stem ++ part := by
  rw [List.isSuffixOf_iff_suffix]
  constructor
  · rintro ⟨stem, hstem⟩
    refine ⟨String.ofList stem, ?_⟩
    rw [← String.toList_inj, String.toList_append, String.toList_ofList, hstem]
  · rintro ⟨stem, rfl⟩
    rw [String.toList_append]
    exact List.suffix_append _ _

/-! ### Across a separator -/

section Separator

variable {c : Char} {cs ds es : List Char}

theorem mem_of_prefix_cons (hne : cs ≠ []) (h : cs <+: c :: ds) : c ∈ cs := by
  obtain ⟨rest, hrest⟩ := h
  cases cs with
  | nil => exact absurd rfl hne
  | cons first others =>
    obtain ⟨rfl, -⟩ := List.cons.inj hrest
    exact List.mem_cons_self

/-- What is found behind a separator does not start with it. -/
theorem infix_cons_iff_of_not_mem (hne : cs ≠ []) (hc : c ∉ cs) :
    cs <:+: c :: ds ↔ cs <:+: ds := by
  rw [List.infix_cons_iff]
  exact or_iff_right fun h => hc (mem_of_prefix_cons hne h)

/-- **One separator.** What does not hold the separator stands on one side of it. -/
theorem infix_append_cons_iff (hne : cs ≠ []) (hc : c ∉ cs) :
    cs <:+: ds ++ c :: es ↔ cs <:+: ds ∨ cs <:+: es := by
  rw [List.infix_append_iff_ne_nil, infix_cons_iff_of_not_mem hne hc]
  refine or_congr_right (or_iff_left ?_)
  rintro ⟨front, back, -, hback, rfl, -, hprefix⟩
  exact hc (List.mem_append_right front (mem_of_prefix_cons hback hprefix))

end Separator

/-- **A list of parts.** What does not hold the separator occurs in the list if and only if it
occurs in one of the parts. -/
theorem occurs_intercalate_iff {sep : String} {c : Char} (hsep : sep.toList = [c]) (hne : part ≠ "")
    (hc : c ∉ part.toList) (parts : List String) :
    Occurs part (String.intercalate sep parts) ↔ ∃ p ∈ parts, Occurs part p := by
  have hnil : part.toList ≠ [] := fun h => hne (String.toList_inj.mp h)
  induction parts with
  | nil =>
    rw [String.intercalate_nil, occurs_iff_infix]
    simpa using hnil
  | cons first rest ih =>
    cases rest with
    | nil => simp only [String.intercalate_singleton, List.mem_singleton, exists_eq_left]
    | cons next rest =>
      have hsplit : Occurs part (String.intercalate sep (first :: next :: rest)) ↔
          Occurs part first ∨ Occurs part (String.intercalate sep (next :: rest)) := by
        rw [String.intercalate_cons_cons, occurs_iff_infix, String.toList_append,
          String.toList_append, hsep, List.append_assoc, List.singleton_append,
          infix_append_cons_iff hnil hc, ← occurs_iff_infix, ← occurs_iff_infix]
      refine hsplit.trans ((or_congr_right ih).trans ?_)
      simp only [List.mem_cons, exists_eq_or_imp]

end RowSchema.Text
