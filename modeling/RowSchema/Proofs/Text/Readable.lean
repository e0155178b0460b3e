import Mathlib.Data.List.TakeWhile

/-!
# Texts that can be read back

A text that is put together from parts can be read back if each part ends where the next one
begins, whatever the next one is. So being readable is a property of a part *in front of* other
text: from two equal texts with such a part in front, the same is read, and the same is left.

Names end at the first character that no name has, quoted texts at the quote, and lists where
something else than the separator follows. Everything else between the parts is fixed and cancels.

## Main definitions

* `Text.StartsOutside` — a text that no word of a class can run on into
* `Text.Readable` — what `view` tells of a value can be read off its text
* `Text.isIdentifierChar`, `IsIdentifier` — names

## Main results

* `Text.word_append_inj` — words end where their class of characters ends
* `Text.quoted_append_inj` — a text in quotes ends at the second quote
* `Text.Readable.intercalate` — lists of readable parts are readable
-/

namespace RowSchema.Text

/-! ### Words -/

/-- The text does not start with a character of the class `p`. -/
def StartsOutside (p : Char → Bool) (r : String) : Prop :=
  ∀ c ∈ r.toList.head?, p c = false

/-- A text starts as the first of its parts does, if that part is not empty. -/
theorem head?_append {s : String} {c : Char} (h : s.toList.head? = some c) (r : String) :
    (s ++ r).toList.head? = some c := by
  rw [String.toList_append, List.head?_append, h]
  rfl

theorem startsOutside_append {p : Char → Bool} {s : String} {c : Char}
    (h : s.toList.head? = some c) (hc : p c = false) (r : String) : StartsOutside p (s ++ r) := by
  intro c' hc'
  rw [head?_append h] at hc'
  cases hc'
  exact hc

theorem takeWhile_word {p : Char → Bool} {w r : String} (hw : ∀ c ∈ w.toList, p c = true)
    (hr : StartsOutside p r) : (w ++ r).toList.takeWhile p = w.toList := by
  have hnone : r.toList.takeWhile p = [] := by
    cases h : r.toList with
    | nil => rfl
    | cons c rest => rw [List.takeWhile_cons, hr c (by rw [h]; rfl)]; rfl
  rw [String.toList_append, List.takeWhile_append_of_pos hw, hnone, List.append_nil]

/-- **Words.** Two words of a class are the same if equal texts start with them and go on
outside of the class. -/
theorem word_append_inj {p : Char → Bool} {w w' r r' : String} (hw : ∀ c ∈ w.toList, p c = true)
    (hw' : ∀ c ∈ w'.toList, p c = true) (hr : StartsOutside p r) (hr' : StartsOutside p r')
    (h : w ++ r = w' ++ r') : w = w' ∧ r = r' := by
  have hsame : w = w' := by
    rw [← String.toList_inj, ← takeWhile_word hw hr, h, takeWhile_word hw' hr']
  rw [hsame] at h
  exact ⟨hsame, (String.append_right_inj w').mp h⟩

/-- A text without quotes ends at the quote after it. -/
theorem quoted_append_inj {w w' r r' : String} (hw : '"' ∉ w.toList) (hw' : '"' ∉ w'.toList)
    (h : w ++ ("\"" ++ r) = w' ++ ("\"" ++ r')) : w = w' ∧ r = r' := by
  have hclass : ∀ {x : String}, '"' ∉ x.toList → ∀ c ∈ x.toList, (c != '"') = true := by
    intro x hx c hc
    exact bne_iff_ne.mpr fun heq => hx (heq ▸ hc)
  have hquote : ∀ x, StartsOutside (· != '"') ("\"" ++ x) := startsOutside_append rfl rfl
  obtain ⟨hsame, hrest⟩ := word_append_inj (hclass hw) (hclass hw') (hquote r) (hquote r') h
  exact ⟨hsame, (String.append_right_inj "\"").mp hrest⟩

/-! ### Names -/

/-- A letter, a digit, an underscore or a dollar sign. All characters beyond ASCII are let through,
so the letters of every script are among them. -/
def isIdentifierChar (c : Char) : Bool :=
  c.isAlphanum || c == '_' || c == '$' || decide (128 ≤ c.toNat)

/-- A name of letters, digits, underscores and dollar signs that does not start with a digit. -/
def IsIdentifier (s : String) : Prop :=
  s ≠ "" ∧ (∀ c ∈ s.toList, isIdentifierChar c = true) ∧ ∀ c ∈ s.toList.head?, c.isDigit = false

/-- A name is checked character by character. -/
instance (s : String) : Decidable (IsIdentifier s) :=
  decidable_of_iff (s ≠ "" ∧ s.toList.all isIdentifierChar = true ∧
      s.toList.head?.all (fun c => !c.isDigit) = true)
    (by rw [IsIdentifier, List.all_eq_true, Option.all_eq_true]; simp)

/-- Names are the same if equal texts start with them and no name runs on. -/
theorem identifier_append_inj {w w' r r' : String} (hw : IsIdentifier w) (hw' : IsIdentifier w')
    (hr : StartsOutside isIdentifierChar r) (hr' : StartsOutside isIdentifierChar r')
    (h : w ++ r = w' ++ r') : w = w' ∧ r = r' :=
  word_append_inj hw.2.1 hw'.2.1 hr hr' h

/-! ### Readable parts -/

variable {α β : Type}

/-- In front of texts for which `ends` holds, `text` ends where the value ends, and `view` of the
value can be read off it. Only values for which `ok` holds are considered. -/
def Readable (ok : α → Prop) (ends : String → Prop) (text : α → String) (view : α → β) : Prop :=
  ∀ ⦃a b⦄, ok a → ok b → ∀ ⦃r s⦄, ends r → ends s → text a ++ r = text b ++ s →
    view a = view b ∧ r = s

theorem intercalate_cons (sep part : String) (parts : List String) :
    String.intercalate sep (part :: parts) = part ++ String.join (parts.map (sep ++ ·)) := by
  induction parts generalizing part with
  | nil => rw [String.intercalate_singleton, List.map_nil, String.join_nil, String.append_empty]
  | cons next rest ih =>
    rw [String.intercalate_cons_cons, ih, List.map_cons, String.join_cons]
    simp only [String.append_assoc]

namespace Readable

variable {ok : α → Prop} {ends stop : String → Prop} {text : α → String} {view : α → β}
  {sep : String}

/-- Readable parts, each of them after a separator. The list goes on where a separator and a part
stand, and `stop` says what stands where it ends. -/
theorem join (h : Readable ok ends text view) (hsep : ∀ r, ends (sep ++ r))
    (hstop : ∀ r, stop r → ends r) (hmore : ∀ a, ok a → ∀ r, ¬ stop (sep ++ (text a ++ r))) :
    Readable (∀ a ∈ ·, ok a) stop (fun xs => String.join (xs.map fun a => sep ++ text a))
      (List.map view) := by
  have hends : ∀ (xs : List α) r, stop r →
      ends (String.join (xs.map fun a => sep ++ text a) ++ r) := by
    intro xs r hr
    cases xs with
    | nil => simpa using hstop r hr
    | cons x rest =>
      rw [List.map_cons, String.join_cons, String.append_assoc, String.append_assoc]
      exact hsep _
  intro xs
  induction xs with
  | nil =>
    intro ys _ hys r s hr hs heq
    cases ys with
    | nil => exact ⟨rfl, by simpa using heq⟩
    | cons y rest =>
      have hr' : r = sep ++ (text y ++ (String.join (rest.map fun a => sep ++ text a) ++ s)) := by
        simpa [String.append_assoc] using heq
      exact absurd (hr' ▸ hr) (hmore y (hys y (List.mem_cons_self ..)) _)
  | cons x rest ih =>
    intro ys hxs hys r s hr hs heq
    cases ys with
    | nil =>
      have hs' : s = sep ++ (text x ++ (String.join (rest.map fun a => sep ++ text a) ++ r)) := by
        simpa [String.append_assoc] using heq.symm
      exact absurd (hs' ▸ hs) (hmore x (hxs x (List.mem_cons_self ..)) _)
    | cons y rest' =>
      obtain ⟨hx, hrest⟩ := List.forall_mem_cons.mp hxs
      obtain ⟨hy, hrest'⟩ := List.forall_mem_cons.mp hys
      simp only [List.map_cons, String.join_cons, String.append_assoc,
        String.append_right_inj] at heq
      obtain ⟨hview, hleft⟩ := h hx hy (hends rest r hr) (hends rest' s hs) heq
      obtain ⟨hviews, hrs⟩ := ih hrest hrest' hr hs hleft
      exact ⟨by rw [List.map_cons, List.map_cons, hview, hviews], hrs⟩

/-- **Lists.** Readable parts with separators between them are readable in front of texts that
start neither like a part nor like a separator with a part. -/
theorem intercalate (h : Readable ok ends text view) (hsep : ∀ r, ends (sep ++ r))
    (hstop : ∀ r, stop r → ends r) (hmore : ∀ a, ok a → ∀ r, ¬ stop (sep ++ (text a ++ r)))
    (hsome : ∀ a, ok a → ∀ r, ¬ stop (text a ++ r)) :
    Readable (∀ a ∈ ·, ok a) stop (fun xs => String.intercalate sep (xs.map text))
      (List.map view) := by
  have hcons : ∀ x (rest : List α) r, String.intercalate sep ((x :: rest).map text) ++ r =
      text x ++ (String.join (rest.map fun a => sep ++ text a) ++ r) := by
    intro x rest r
    rw [List.map_cons, intercalate_cons, List.map_map, String.append_assoc]
    rfl
  intro xs ys hxs hys r s hr hs heq
  cases xs with
  | nil =>
    cases ys with
    | nil => exact ⟨rfl, by simpa using heq⟩
    | cons y rest =>
      simp only [hcons, List.map_nil, String.intercalate_nil, String.empty_append] at heq
      exact absurd (heq ▸ hr) (hsome y (hys y (List.mem_cons_self ..)) _)
  | cons x rest =>
    cases ys with
    | nil =>
      simp only [hcons, List.map_nil, String.intercalate_nil, String.empty_append] at heq
      exact absurd (heq ▸ hs) (hsome x (hxs x (List.mem_cons_self ..)) _)
    | cons y rest' =>
      -- Reading the first part leaves the same as if the part had stood after a separator.
      have heq' : String.join ((x :: rest).map fun a => sep ++ text a) ++ r =
          String.join ((y :: rest').map fun a => sep ++ text a) ++ s := by
        simp only [hcons] at heq
        simp only [List.map_cons, String.join_cons, String.append_assoc, heq]
      exact h.join hsep hstop hmore hxs hys hr hs heq'

end Readable

end RowSchema.Text
