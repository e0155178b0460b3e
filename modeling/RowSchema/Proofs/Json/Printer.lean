import Mathlib.Tactic.IntervalCases
import RowSchema.Json.Printer
import RowSchema.Proofs.Text.Lines

/-!
# Compact JSON is one line

The compact text of a tree holds no control character, whatever its strings and keys hold: inside
the quotes a control character is written by name or by number, and nothing outside them is one.

## Main results

* `Decimal.Layout.isLine_render` — the text of a float is one line
* `Json.isLine_text` — the compact text of a tree is one line
-/

namespace RowSchema

open Text

/-! ### Numbers -/

namespace Decimal

@[simp]
theorem isLine_toDigits (n : Nat) : IsLine (Nat.toDigits 10 n) := by
  intro c hc
  have hdigit : c.isDigit = true := Nat.isDigit_of_mem_toDigits (by omega) (by omega) hc
  have h0 : '0'.toNat ≤ c.toNat := (Char.isDigit_iff_toNat.1 hdigit).1
  exact le_trans (by decide) h0

theorem isLine_toString (n : Nat) : IsLine (toString n).toList := by
  simp

@[simp]
theorem isLine_zeros (n : Nat) : IsLine (zeros n).toList := by
  intro c hc
  rw [zeros, String.toList_ofList] at hc
  rw [List.eq_of_mem_replicate hc]
  decide

theorem isLine_positional (d : Scaled) : IsLine (positional d).toList := by
  have hdigits := isLine_toString d.digits
  simp only [positional]
  generalize (toString d.digits).toList = digits at hdigits ⊢
  split_ifs
  · simp [hdigits]
  · have htake : IsLine (digits.take (digits.length + d.exponent).toNat) :=
      fun c hc => hdigits c (List.mem_of_mem_take hc)
    have hdrop : IsLine (digits.drop (digits.length + d.exponent).toNat) :=
      fun c hc => hdigits c (List.mem_of_mem_drop hc)
    simp [htake, hdrop]
  · simp [hdigits]

theorem isLine_scientific (d : Scaled) : IsLine (scientific d).toList := by
  have hdigits := isLine_toString d.digits
  simp only [scientific]
  generalize (toString d.digits).toList = digits at hdigits ⊢
  match digits with
  | [] => split_ifs <;> simp
  | [lead] => split_ifs <;> simp_all
  | lead :: next :: rest => split_ifs <;> simp_all

theorem Layout.isLine_render (n : Layout) (x : Binary64) : IsLine (n.render x).toList := by
  simp only [Layout.render]
  split_ifs <;> simp [isLine_positional, isLine_scientific]

end Decimal

namespace Json

theorem Number.isLine_text (n : Number) : IsLine n.text.toList := by
  match n with
  | .float x => exact floatLayout.isLine_render x
  | .int (.ofNat n) => exact Decimal.isLine_toString n
  | .int (.negSucc n) =>
    change IsLine ("-" ++ (n + 1).repr).toList
    simp

/-! ### Strings -/

theorem le_toNat_hexDigit {n : Nat} (h : n < 16) : 0x20 ≤ (hexDigit n).toNat := by
  interval_cases n <;> decide

/-- A character that stands for itself is no control character. -/
theorem isLine_escape (c : Char) : IsLine (escape c) := by
  unfold escape
  by_cases hc : c.toNat < 0x20
  · have hhigh := le_toNat_hexDigit (show c.toNat / 16 < 16 by omega)
    have hlow := le_toNat_hexDigit (show c.toNat % 16 < 16 by omega)
    split_ifs <;> simp [hhigh, hlow]
  · have hself : IsLine [c] := by simpa using hc
    split_ifs <;> simp [hself]

theorem isLine_quote (s : String) : IsLine (quote s).toList := by
  simp [quote, isLine_flatMap fun c _ => isLine_escape c]

/-! ### Trees -/

theorem isLine_intercalate {parts : List String} (h : ∀ part ∈ parts, IsLine part.toList) :
    IsLine (String.intercalate "," parts).toList := by
  induction parts with
  | nil => simp
  | cons part rest ih =>
    obtain ⟨hpart, hrest⟩ := List.forall_mem_cons.1 h
    cases rest with
    | nil => simpa using hpart
    | cons next others =>
      rw [String.intercalate_cons_cons, String.toList_append, String.toList_append]
      simp only [isLine_append]
      exact ⟨⟨hpart, by simp⟩, ih hrest⟩

theorem isLine_enclosed {before body after : String} (hbefore : IsLine before.toList)
    (hbody : IsLine body.toList) (hafter : IsLine after.toList) :
    IsLine (before ++ body ++ after).toList := by
  rw [String.toList_append, String.toList_append]
  exact isLine_append.2 ⟨isLine_append.2 ⟨hbefore, hbody⟩, hafter⟩

mutual

/-- The compact text of a tree is one line. -/
theorem isLine_text : ∀ j : Json, IsLine j.text.toList
  | .null => by simp [text]
  | .bool b => by cases b <;> simp [text]
  | .number n => n.isLine_text
  | .string s => isLine_quote s
  | .array items =>
    isLine_enclosed (by simp) (isLine_intercalate (isLine_itemTexts items)) (by simp)
  | .object members =>
    isLine_enclosed (by simp) (isLine_intercalate (isLine_memberTexts members)) (by simp)

theorem isLine_itemTexts : ∀ (items : List Json), ∀ part ∈ itemTexts items, IsLine part.toList
  | [] => by simp [itemTexts]
  | item :: rest => List.forall_mem_cons.2 ⟨isLine_text item, isLine_itemTexts rest⟩

theorem isLine_memberTexts :
    ∀ (members : List (String × Json)), ∀ part ∈ memberTexts members, IsLine part.toList
  | [] => by simp [memberTexts]
  | (key, item) :: rest => List.forall_mem_cons.2
    ⟨isLine_enclosed (isLine_quote key) (by simp) (isLine_text item), isLine_memberTexts rest⟩

end

end Json

end RowSchema
