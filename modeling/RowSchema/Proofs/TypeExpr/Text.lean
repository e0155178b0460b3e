import RowSchema.Proofs.Text.Readable
import RowSchema.TypeExpr.Resolve
import RowSchema.TypeExpr.Schema
import RowSchema.TypeExpr.Text

/-!
# Reading type expressions

The text of a type expression can be read back, in front of any text that can follow one. The names
of enums are what has to be told apart from everything else: they have no points and no parentheses,
and everything that is not the name of an enum has one or the other.

## The class of names

What else names are made of is left open, because it decides what can follow an expression. In a
generated file that is a comma or a line break, so names on a line have no line breaks. Nothing
follows an expression that stands alone, and there any name will do that has no punctuation.

## Main definitions

* `TypeExpr.IsNameClass` — characters of names, none of them punctuation
* `TypeExpr.IsPlain` — names of enums are of such a class, keys have no quotes
* `TypeExpr.Opening` — what an expression starts with, up to its first operand
* `TypeExpr.Follows` — a text that no expression can run on into

## Main results

* `TypeExpr.opening_eq` — equal texts start with equal openings
* `TypeExpr.text_append_inj` — equal texts start with equal expressions
* `TypeExpr.eq_of_text_eq` — equal texts are texts of one expression
-/

namespace RowSchema.TypeExpr

open Datamodel (Field Registry)
open Text (StartsOutside isIdentifierChar)

/-! ### Names and keys -/

/-- A class of characters for the names of enums. It has the letters and digits, so that it has the
words of the text, and none of the marks that stand around words. -/
structure IsNameClass (p : Char → Bool) : Prop where
  alphanum : ∀ c : Char, c.isAlphanum = true → p c = true
  point : p '.' = false
  opening : p '(' = false
  closing : p ')' = false
  comma : p ',' = false

/-- None of the marks that stand around words. This is the largest class of characters for names. -/
def isUnpunctuated (c : Char) : Bool :=
  c ≠ '.' ∧ c ≠ '(' ∧ c ≠ ')' ∧ c ≠ ','

/-- A character that may stand in the name of an enum on a line of a file: no point, parenthesis,
comma, quote, space or line break. -/
def isNameChar (c : Char) : Bool :=
  c ≠ '.' ∧ c ≠ '(' ∧ c ≠ ')' ∧ c ≠ ',' ∧ c ≠ '"' ∧ c ≠ ' ' ∧ c ≠ '\n'

theorem isNameChar_of_isIdentifierChar {c : Char} (h : isIdentifierChar c = true) :
    isNameChar c = true := by
  rw [isNameChar, decide_eq_true_iff]
  refine ⟨?_, ?_, ?_, ?_, ?_, ?_, ?_⟩ <;> (rintro rfl; revert h; decide)

theorem isUnpunctuated_of_isNameChar {c : Char} (h : isNameChar c = true) :
    isUnpunctuated c = true := by
  obtain ⟨hpoint, hopening, hclosing, hcomma, -⟩ := of_decide_eq_true h
  exact decide_eq_true ⟨hpoint, hopening, hclosing, hcomma⟩

theorem isNameClass_isNameChar : IsNameClass isNameChar where
  alphanum c h := by
    refine isNameChar_of_isIdentifierChar ?_
    rw [isIdentifierChar, h, Bool.true_or, Bool.true_or, Bool.true_or]
  point := rfl
  opening := rfl
  closing := rfl
  comma := rfl

theorem isNameClass_isUnpunctuated : IsNameClass isUnpunctuated where
  alphanum c h := isUnpunctuated_of_isNameChar (isNameClass_isNameChar.alphanum c h)
  point := rfl
  opening := rfl
  closing := rfl
  comma := rfl

/-- The names of enums consist of characters of the class `p`, and the keys have no quotes. -/
def IsPlain (p : Char → Bool) : TypeExpr → Prop
  | .scalar _ => True
  | .enum name => ∀ c ∈ name.toList, p c = true
  | .array item => item.IsPlain p
  | .undefinedOr inner => inner.IsPlain p
  | .column select insert update => select.IsPlain p ∧ insert.IsPlain p ∧ update.IsPlain p
  | .generated inner => inner.IsPlain p
  | .fromKey inner key => inner.IsPlain p ∧ '"' ∉ key.toList

variable {p : Char → Bool}

/-! ### Openings -/

/-- The outermost constructor of an expression, with what it holds besides operands and a key. -/
inductive Opening where
  | scalar (s : Scalar)
  | enum (name : String)
  | array
  | undefinedOr
  | column
  | generated
  | fromKey

/-- What an expression starts with. -/
def opening : TypeExpr → Opening
  | .scalar s => .scalar s
  | .enum name => .enum name
  | .array _ => .array
  | .undefinedOr _ => .undefinedOr
  | .column .. => .column
  | .generated _ => .generated
  | .fromKey .. => .fromKey

/-- The text in front of the first operand. -/
def Opening.text : Opening → String
  | .scalar s => s.text
  | .enum name => name
  | .array => "Schema.Array("
  | .undefinedOr => "Schema.UndefinedOr("
  | .column => "columnType("
  | .generated => "generated("
  | .fromKey => "Schema.propertySignature("

/-- The opening with a text. What is nothing else is the name of an enum. -/
def Opening.ofText (s : String) : Opening :=
  match s with
  | "Schema.String" => .scalar .string
  | "Schema.Number" => .scalar .number
  | "Schema.BigInt" => .scalar .bigint
  | "Schema.Boolean" => .scalar .boolean
  | "Schema.Date" => .scalar .date
  | "Schema.Unknown" => .scalar .unknown
  | "Schema.Uint8Array" => .scalar .uint8Array
  | "Schema.UUID" => .scalar .uuid
  | "Schema.Never" => .scalar .never
  | "Schema.Array(" => .array
  | "Schema.UndefinedOr(" => .undefinedOr
  | "columnType(" => .column
  | "generated(" => .generated
  | "Schema.propertySignature(" => .fromKey
  | name => .enum name

theorem Opening.ofText_name (hp : IsNameClass p) {name : String}
    (h : ∀ c ∈ name.toList, p c = true) : Opening.ofText name = .enum name := by
  have houtside : ∀ c, p c = false → c ∉ name.toList := by
    intro c hc hmem
    exact Bool.false_ne_true (hc.symm.trans (h c hmem))
  unfold Opening.ofText
  split <;> first
    | rfl
    | exact absurd (by decide) (houtside '.' hp.point)
    | exact absurd (by decide) (houtside '(' hp.opening)

/-- An opening is known by its text. -/
theorem Opening.ofText_text (hp : IsNameClass p) {e : TypeExpr} (h : e.IsPlain p) :
    Opening.ofText e.opening.text = e.opening := by
  cases e with
  | scalar s => cases s <;> rfl
  | enum name => exact Opening.ofText_name hp h
  | _ => rfl

/-! ### Where an opening ends -/

/-- A character of a name or a point between names. -/
def isPathChar (p : Char → Bool) (c : Char) : Bool :=
  p c || c == '.'

/-- Letters, digits and points belong to paths, whatever else names are made of. -/
theorem isPathChar_of_all (hp : IsNameClass p) {w : String}
    (hw : w.toList.all (fun c => c.isAlphanum || c == '.') = true) :
    ∀ c ∈ w.toList, isPathChar p c = true := by
  intro c hc
  have hchar := List.all_eq_true.mp hw c hc
  rw [Bool.or_eq_true] at hchar
  rcases hchar with halphanum | hpoint
  · rw [isPathChar, hp.alphanum c halphanum, Bool.true_or]
  · rw [isPathChar, hpoint, Bool.or_true]

/-- The names and points at the start of a text, with a parenthesis that comes after them. -/
def leadingPath (p : Char → Bool) (s : String) : List Char :=
  s.toList.takeWhile (isPathChar p) ++
    if (s.toList.dropWhile (isPathChar p)).head? = some '(' then ['('] else []

/-- The text cannot be the rest of a path or of an opening. -/
def Follows (p : Char → Bool) (r : String) : Prop :=
  ∀ c ∈ r.toList.head?, isPathChar p c = false ∧ c ≠ '('

theorem Follows.startsOutside {r : String} (h : Follows p r) : StartsOutside (isPathChar p) r :=
  fun c hc => (h c hc).1

theorem follows_empty : Follows p "" := by
  intro c hc
  cases hc

/-- An operand ends where a character comes that belongs to no path and opens nothing. -/
theorem follows_append {s : String} {c : Char} (h : s.toList.head? = some c)
    (hc : isPathChar p c = false ∧ c ≠ '(') (r : String) : Follows p (s ++ r) := by
  intro c' hc'
  rw [Text.head?_append h] at hc'
  cases hc'
  exact hc

theorem leadingPath_append {w r : String} (hw : ∀ c ∈ w.toList, isPathChar p c = true)
    (hr : StartsOutside (isPathChar p) r) :
    leadingPath p (w ++ r) = w.toList ++ if r.toList.head? = some '(' then ['('] else [] := by
  have htake := Text.takeWhile_word hw hr
  have hdrop : (w ++ r).toList.dropWhile (isPathChar p) = r.toList := by
    have hsplit := List.takeWhile_append_dropWhile (p := isPathChar p) (l := (w ++ r).toList)
    rw [htake] at hsplit
    exact List.append_cancel_left (hsplit.trans String.toList_append)
  rw [leadingPath, htake, hdrop]

theorem leadingPath_leaf {w r : String} (hw : ∀ c ∈ w.toList, isPathChar p c = true)
    (hr : Follows p r) : leadingPath p (w ++ r) = w.toList := by
  have hhead : r.toList.head? ≠ some '(' := fun hc => (hr '(' hc).2 rfl
  rw [leadingPath_append hw hr.startsOutside, if_neg hhead, List.append_nil]

theorem leadingPath_operator (hp : IsNameClass p) {w : String}
    (hw : ∀ c ∈ w.toList, isPathChar p c = true) (r : String) :
    leadingPath p (w ++ ("(" ++ r)) = (w ++ "(").toList := by
  have hhead : ("(" ++ r).toList.head? = some '(' := Text.head?_append rfl r
  have hopen : isPathChar p '(' = false := by
    rw [isPathChar, hp.opening]
    rfl
  rw [leadingPath_append hw (Text.startsOutside_append rfl hopen r), if_pos hhead,
    String.toList_append]
  rfl

/-- The operands of an expression stand behind its opening. -/
theorem exists_operands (e : TypeExpr) : ∃ operands, e.text = e.opening.text ++ operands := by
  cases e with
  | scalar s => exact ⟨"", String.append_empty.symm⟩
  | enum name => exact ⟨"", String.append_empty.symm⟩
  | array item => exact ⟨item.text ++ ")", by rw [text_array, String.append_assoc]; rfl⟩
  | undefinedOr inner =>
    exact ⟨inner.text ++ ")", by rw [text_undefinedOr, String.append_assoc]; rfl⟩
  | column select insert update =>
    refine ⟨select.text ++ ", " ++ insert.text ++ ", " ++ update.text ++ ")", ?_⟩
    rw [text_column]
    simp only [String.append_assoc]
    rfl
  | generated inner => exact ⟨inner.text ++ ")", by rw [text_generated, String.append_assoc]; rfl⟩
  | fromKey inner key =>
    refine ⟨inner.text ++ ").pipe(Schema.fromKey(\"" ++ key ++ "\"))", ?_⟩
    rw [text_fromKey]
    simp only [String.append_assoc]
    rfl

/-- The opening of an expression can be seen from the start of its text. -/
theorem leadingPath_text (hp : IsNameClass p) {e : TypeExpr} (he : e.IsPlain p) {r : String}
    (hr : Follows p r) : leadingPath p (e.text ++ r) = e.opening.text.toList := by
  obtain ⟨operands, htext⟩ := exists_operands e
  -- An operator is a path with a parenthesis, in front of operands that do not matter here.
  have operator (w : String) (hw : w.toList.all (fun c => c.isAlphanum || c == '.') = true)
      (hopening : e.opening.text = w ++ "(") :
      leadingPath p (e.text ++ r) = e.opening.text.toList := by
    rw [htext, hopening, String.append_assoc, String.append_assoc]
    exact leadingPath_operator hp (isPathChar_of_all hp hw) _
  cases e with
  | scalar s =>
    refine leadingPath_leaf (isPathChar_of_all hp ?_) hr
    cases s <;> decide
  | enum name =>
    refine leadingPath_leaf (fun c hc => ?_) hr
    rw [isPathChar, he c hc, Bool.true_or]
  | array item => exact operator "Schema.Array" (by decide) rfl
  | undefinedOr inner => exact operator "Schema.UndefinedOr" (by decide) rfl
  | column select insert update => exact operator "columnType" (by decide) rfl
  | generated inner => exact operator "generated" (by decide) rfl
  | fromKey inner key => exact operator "Schema.propertySignature" (by decide) rfl

theorem opening_eq (hp : IsNameClass p) {e e' : TypeExpr} (he : e.IsPlain p) (he' : e'.IsPlain p)
    {r r' : String} (hr : Follows p r) (hr' : Follows p r') (h : e.text ++ r = e'.text ++ r') :
    e.opening = e'.opening := by
  have htext : e.opening.text = e'.opening.text := by
    rw [← String.toList_inj, ← leadingPath_text hp he hr, h, leadingPath_text hp he' hr']
  rw [← Opening.ofText_text hp he, htext, Opening.ofText_text hp he']

/-! ### Whole expressions -/

/-- Two expressions of which equal texts that go on after them start with the same one. -/
def ReadsAs (p : Char → Bool) (e e' : TypeExpr) : Prop :=
  ∀ ⦃r r' : String⦄, Follows p r → Follows p r' → e.text ++ r = e'.text ++ r' → e = e' ∧ r = r'

/-- An operand is read up to the comma or the parenthesis after it. -/
theorem ReadsAs.operand (hp : IsNameClass p) {e e' : TypeExpr} (h : ReadsAs p e e')
    {s r r' : String} {c : Char} (heq : e.text ++ (s ++ r) = e'.text ++ (s ++ r'))
    (hs : s.toList.head? = some c) (hc : c = ')' ∨ c = ',') : e = e' ∧ r = r' := by
  have hends : isPathChar p c = false ∧ c ≠ '(' := by
    rcases hc with rfl | rfl
    · rw [isPathChar, hp.closing]
      decide
    · rw [isPathChar, hp.comma]
      decide
  obtain ⟨hsame, hrest⟩ := h (follows_append hs hends r) (follows_append hs hends r') heq
  exact ⟨hsame, (String.append_right_inj s).mp hrest⟩

/-- **Type expressions can be read back.** -/
theorem text_append_inj (hp : IsNameClass p) {e e' : TypeExpr} (he : e.IsPlain p)
    (he' : e'.IsPlain p) : ReadsAs p e e' := by
  induction e generalizing e' with
  | scalar s =>
    intro r r' hr hr' h
    have hopening := opening_eq hp he he' hr hr' h
    cases e' with
    | scalar s' =>
      cases hopening
      exact ⟨rfl, (String.append_right_inj _).mp h⟩
    | _ => cases hopening
  | enum name =>
    intro r r' hr hr' h
    have hopening := opening_eq hp he he' hr hr' h
    cases e' with
    | enum name' =>
      cases hopening
      exact ⟨rfl, (String.append_right_inj _).mp h⟩
    | _ => cases hopening
  | array item ih =>
    intro r r' hr hr' h
    have hopening := opening_eq hp he he' hr hr' h
    cases e' with
    | array item' =>
      have hitem : ReadsAs p item item' := ih he he'
      simp only [text_array, String.append_assoc, String.append_right_inj] at h
      obtain ⟨rfl, hrest⟩ := hitem.operand hp h rfl (.inl rfl)
      exact ⟨rfl, hrest⟩
    | _ => cases hopening
  | undefinedOr inner ih =>
    intro r r' hr hr' h
    have hopening := opening_eq hp he he' hr hr' h
    cases e' with
    | undefinedOr inner' =>
      have hinner : ReadsAs p inner inner' := ih he he'
      simp only [text_undefinedOr, String.append_assoc, String.append_right_inj] at h
      obtain ⟨rfl, hrest⟩ := hinner.operand hp h rfl (.inl rfl)
      exact ⟨rfl, hrest⟩
    | _ => cases hopening
  | column select insert update ihselect ihinsert ihupdate =>
    intro r r' hr hr' h
    have hopening := opening_eq hp he he' hr hr' h
    cases e' with
    | column select' insert' update' =>
      have hselect : ReadsAs p select select' := ihselect he.1 he'.1
      have hinsert : ReadsAs p insert insert' := ihinsert he.2.1 he'.2.1
      have hupdate : ReadsAs p update update' := ihupdate he.2.2 he'.2.2
      simp only [text_column, String.append_assoc, String.append_right_inj] at h
      obtain ⟨rfl, hafter⟩ := hselect.operand hp h rfl (.inr rfl)
      obtain ⟨rfl, hlast⟩ := hinsert.operand hp hafter rfl (.inr rfl)
      obtain ⟨rfl, hrest⟩ := hupdate.operand hp hlast rfl (.inl rfl)
      exact ⟨rfl, hrest⟩
    | _ => cases hopening
  | generated inner ih =>
    intro r r' hr hr' h
    have hopening := opening_eq hp he he' hr hr' h
    cases e' with
    | generated inner' =>
      have hinner : ReadsAs p inner inner' := ih he he'
      simp only [text_generated, String.append_assoc, String.append_right_inj] at h
      obtain ⟨rfl, hrest⟩ := hinner.operand hp h rfl (.inl rfl)
      exact ⟨rfl, hrest⟩
    | _ => cases hopening
  | fromKey inner key ih =>
    intro r r' hr hr' h
    have hopening := opening_eq hp he he' hr hr' h
    cases e' with
    | fromKey inner' key' =>
      have hinner : ReadsAs p inner inner' := ih he.1 he'.1
      simp only [text_fromKey, String.append_assoc, String.append_right_inj] at h
      obtain ⟨rfl, hkey⟩ := hinner.operand hp h rfl (.inl rfl)
      rw [show "\"))" = "\"" ++ "))" from rfl, String.append_assoc, String.append_assoc] at hkey
      obtain ⟨rfl, hrest⟩ := Text.quoted_append_inj he.2 he'.2 hkey
      exact ⟨rfl, (String.append_right_inj "))").mp hrest⟩
    | _ => cases hopening

/-! ### Expressions that stand alone -/

/-- **Type expressions are uniquely readable.** Equal texts are texts of one expression, and it
describes one field of a record. Any identifier will do as the name of an enum, also one that is
spelled like a word of the text, because such a word has a point or a parenthesis beside it. -/
theorem eq_of_text_eq {e e' : TypeExpr} (he : e.IsPlain isUnpunctuated)
    (he' : e'.IsPlain isUnpunctuated) (h : e.text = e'.text) :
    e = e' ∧ ∀ (enums : Registry) (name : String),
      e.toProperty enums name = e'.toProperty enums name := by
  have halone : e.text ++ "" = e'.text ++ "" := by rw [h]
  obtain ⟨rfl, -⟩ := text_append_inj isNameClass_isUnpunctuated he he' follows_empty follows_empty
    halone
  exact ⟨rfl, fun _ _ => rfl⟩

/-- A name with a point can be that of a leaf. -/
example : (enum "Schema.String").text = (scalar .string).text := rfl

/-- A key made up of several values of an enum that is named like a constructor. -/
def kindsField : Field :=
  ⟨"kinds", some "kinds, if any", .enum, true, true, true, true, "columnType", none, none, none⟩

/-- The expression of `kindsField`, written out. -/
def kindsExpr : TypeExpr :=
  .fromKey (.column (.array (.enum "columnType")) (.scalar .never) (.scalar .never))
    "kinds, if any"

theorem eq_of_text_eq_kinds :
    (kindsField.typeExpr [("columnType", ["odd", "even"])]).IsPlain isUnpunctuated ∧
    kindsExpr.IsPlain isUnpunctuated ∧
    (kindsField.typeExpr [("columnType", ["odd", "even"])]).text = kindsExpr.text ∧
    kindsField.typeExpr [("columnType", ["odd", "even"])] = kindsExpr ∧
    ∀ (enums : Registry) (name : String),
      (kindsField.typeExpr [("columnType", ["odd", "even"])]).toProperty enums name =
        kindsExpr.toProperty enums name := by
  have hname : ∀ c ∈ "columnType".toList, isUnpunctuated c = true :=
    List.all_eq_true.mp (by decide)
  have hplain : kindsExpr.IsPlain isUnpunctuated := ⟨⟨hname, trivial, trivial⟩, by decide⟩
  have htext : (kindsField.typeExpr [("columnType", ["odd", "even"])]).text = kindsExpr.text := rfl
  exact ⟨hplain, hplain, htext, eq_of_text_eq hplain hplain htext⟩

end RowSchema.TypeExpr
