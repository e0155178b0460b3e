import Mathlib.Tactic.IntervalCases
import RowSchema.Json.Printer
import RowSchema.Proofs.Json.Legible

/-!
# What is written is read back

The compact text of a tree is read back as the same tree, members in their order and keys as often
as they occur, if its brackets nest no deeper than the reader goes and each of its numbers is read
back. Trees that have been read are of this kind, but for their floats.

## Main definitions

* `Json.Gives` — a reading that succeeds, with its result and what is left
* `Json.Follows` — what may stand behind a value
* `Json.Number.ReadsBack` — a number that is read back from its text
* `Json.Returns` — something that is read back by a reader of items

## Main results

* `Json.gives_readString` — a text in quotes is read back
* `Json.Number.readsBack_int` — an integer of 64 bits is read back
* `Json.gives_readArray`, `gives_readObject` — items and members are read back
* `Json.read_text` — a tree is read back

## Implementation notes

Floats are read with one rounded operation of the machine, which proofs cannot compute with. So
whether a float is read back stays a condition.
-/

namespace RowSchema.Json

/-! ### Readings -/

section Readings

variable {α β : Type} {p q : List Char → Prop} {a : α} {b : β} {rest rest' : List Char}

/-- A reading succeeds with `a` and leaves `rest`. -/
def Gives (x : Except Fault (α × { cs // p cs })) (a : α) (rest : List Char) : Prop :=
  ∃ h, x = .ok (a, ⟨rest, h⟩)

theorem Gives.bind {x : Except Fault (α × { cs // p cs })}
    {f : α × { cs // p cs } → Except Fault (β × { cs // q cs })} (hx : Gives x a rest)
    (hf : ∀ h, Gives (f (a, ⟨rest, h⟩)) b rest') : Gives (x >>= f) b rest' := by
  obtain ⟨h, rfl⟩ := hx
  exact hf h

theorem Gives.map {x : Except Fault (α × { cs // p cs })}
    {f : α × { cs // p cs } → β × { cs // q cs }} (hx : Gives x a rest)
    (hf : ∀ h, ∃ h', f (a, ⟨rest, h⟩) = (b, ⟨rest', h'⟩)) : Gives (x.map f) b rest' := by
  obtain ⟨h, rfl⟩ := hx
  obtain ⟨h', hf⟩ := hf h
  exact ⟨h', congrArg Except.ok hf⟩

theorem Gives.of_eq {x : Except Fault (α × { cs // p cs })} (hx : Gives x a rest)
    (h : rest = rest') : Gives x a rest' :=
  h ▸ hx

end Readings

/-! ### Strings -/

section Strings

variable {s cs rest : List Char}

theorem gives_backslash {c : Char} (hc : Gives (readEscape cs) c rest)
    {rest' : List Char} (hs : Gives (readCharacters rest) s rest') :
    Gives (readCharacters ('\\' :: cs)) (c :: s) rest' := by
  rw [readCharacters]
  refine hc.bind fun _ => hs.bind fun _ => ⟨_, rfl⟩

theorem hexUnit?_hexDigit :
    ∀ n < 0x20, hexUnit? '0' '0' (hexDigit (n / 16)) (hexDigit (n % 16)) = some n := by
  decide

theorem byteSize_hexDigit :
    ∀ n < 0x20, byteSize ['0', '0', hexDigit (n / 16), hexDigit (n % 16)] = 4 := by
  decide

/-- A control character is read back from its number. -/
theorem gives_unicodeEscape {c : Char} (hc : c.toNat < 0x20) (rest : List Char) :
    Gives (readEscape
        ('u' :: '0' :: '0' :: hexDigit (c.toNat / 16) :: hexDigit (c.toNat % 16) :: rest))
      c rest := by
  have hunit : Gives (readHexUnit
      ('0' :: '0' :: hexDigit (c.toNat / 16) :: hexDigit (c.toNat % 16) :: rest)) c.toNat rest := by
    simp only [readHexUnit, List.take_succ_cons, List.take_zero, byteSize_hexDigit _ hc,
      Nat.lt_irrefl, if_false, hexUnit?_hexDigit _ hc]
    exact ⟨_, rfl⟩
  have htrail : isTrailingUnit c.toNat = false := by
    simp only [isTrailingUnit, Bool.and_eq_false_iff, decide_eq_false_iff_not]
    omega
  have hlead : isLeadingUnit c.toNat = false := by
    simp only [isLeadingUnit, Bool.and_eq_false_iff, decide_eq_false_iff_not]
    omega
  have hescape : Gives (readUnicodeEscape
      ('0' :: '0' :: hexDigit (c.toNat / 16) :: hexDigit (c.toNat % 16) :: rest)) c rest := by
    refine hunit.bind fun _ => ?_
    simp only [htrail, hlead, Bool.false_eq_true, if_false, Char.ofNat_toNat]
    exact ⟨_, rfl⟩
  rw [readEscape]
  exact hescape.map fun _ => ⟨_, rfl⟩

/-- Every character is read back from what stands for it. -/
theorem gives_escape (c : Char) {cs : List Char} (hs : Gives (readCharacters cs) s rest) :
    Gives (readCharacters (escape c ++ cs)) (c :: s) rest := by
  by_cases hnamed : c ∈ ['"', '\\', '\x08', '\x0c', '\n', '\r', '\t']
  · -- The letter behind the backslash names the character.
    simp only [List.mem_cons, List.not_mem_nil, or_false] at hnamed
    rcases hnamed with rfl | rfl | rfl | rfl | rfl | rfl | rfl <;>
      exact gives_backslash ⟨_, rfl⟩ hs
  · simp only [List.mem_cons, List.not_mem_nil, or_false, not_or] at hnamed
    by_cases hlow : c.toNat < 0x20
    · have hescape : escape c =
          ['\\', 'u', '0', '0', hexDigit (c.toNat / 16), hexDigit (c.toNat % 16)] := by
        simp [escape, hnamed, hlow]
      rw [hescape]
      exact gives_backslash (gives_unicodeEscape hlow cs) hs
    · have hescape : escape c = [c] := by
        simp [escape, hnamed, hlow]
      rw [hescape, List.singleton_append, readCharacters, if_neg hlow]
      · exact hs.bind fun _ => ⟨_, rfl⟩
      · exact hnamed.1
      · exact hnamed.2.1

theorem gives_readCharacters (s rest : List Char) :
    Gives (readCharacters (s.flatMap escape ++ '"' :: rest)) s rest := by
  induction s with
  | nil =>
    rw [List.flatMap_nil, List.nil_append, readCharacters]
    exact ⟨_, rfl⟩
  | cons c s ih =>
    rw [List.flatMap_cons, List.append_assoc]
    exact gives_escape c ih

/-- A text in quotes is read back. -/
theorem gives_readString (s : String) (rest : List Char) :
    Gives (readString (s.toList.flatMap escape ++ '"' :: rest)) s rest :=
  (gives_readCharacters s.toList rest).map fun h => ⟨h, by simp only [String.ofList_toList]⟩

end Strings

/-! ### Numbers -/

/-- What may stand behind a value: nothing, a comma or a closing bracket. -/
def Follows (rest : List Char) : Prop :=
  ∀ c ∈ rest.head?, c = ',' ∨ c = ']' ∨ c = '\x7d'

theorem follows_nil : Follows [] := by
  simp [Follows]

theorem follows_cons {c : Char} {rest : List Char} (h : c = ',' ∨ c = ']' ∨ c = '\x7d') :
    Follows (c :: rest) := by
  simpa [Follows] using h

theorem Follows.isDigit_eq_false {c : Char} {rest : List Char} (h : Follows (c :: rest)) :
    isDigit c = false := by
  rcases h c rfl with rfl | rfl | rfl <;> decide

section Numbers

variable {rest : List Char}

theorem isDigit_of_mem_toDigits {n : Nat} {c : Char} (h : c ∈ Nat.toDigits 10 n) :
    isDigit c = true :=
  Nat.isDigit_of_mem_toDigits (by omega) (by omega) h

theorem leadingDigits_append {digits : List Char} (hdigits : ∀ c ∈ digits, isDigit c = true)
    (hrest : Follows rest) :
    leadingDigits (digits ++ rest) = digits ∧ afterDigits (digits ++ rest) = rest := by
  have hend : leadingDigits rest = [] ∧ afterDigits rest = rest := by
    cases rest with
    | nil => exact ⟨rfl, rfl⟩
    | cons c rest => simp [leadingDigits, afterDigits, hrest.isDigit_eq_false]
  rw [leadingDigits, List.takeWhile_append_of_pos hdigits, afterDigits,
    List.dropWhile_append_of_pos hdigits, ← leadingDigits, ← afterDigits, hend.1, hend.2]
  simp

/-- Digits are absorbed if the number that they write is small enough. -/
theorem absorb_eq {bound : Nat} {digits : List Char} {significand : Nat}
    (h : Nat.ofDigitChars 10 digits significand < bound) :
    absorb bound significand digits = (Nat.ofDigitChars 10 digits significand, []) := by
  induction digits generalizing significand with
  | nil => rfl
  | cons c digits ih =>
    have hnext : significand * 10 + digitValue c = 10 * significand + (c.toNat - '0'.toNat) := by
      rw [digitValue, Nat.mul_comm]
    rw [Nat.ofDigitChars_cons] at h ⊢
    have hle : 10 * significand + (c.toNat - '0'.toNat) ≤
        Nat.ofDigitChars 10 digits (10 * significand + (c.toNat - '0'.toNat)) := by
      rw [Nat.ofDigitChars_eq_ofDigitChars_zero]
      exact le_add_right (Nat.le_mul_of_pos_left _ (by positivity))
    simp only [absorb, hnext, if_pos (lt_of_le_of_lt hle h), ih h]

/-- Only zero is written with a zero in front. -/
theorem exists_toDigits {n : Nat} (h : 0 < n) :
    ∃ c digits, Nat.toDigits 10 n = c :: digits ∧ c ≠ '0' := by
  induction n using Nat.strong_induction_on with
  | _ n ih =>
    by_cases hn : n < 10
    · refine ⟨_, _, Nat.toDigits_of_lt_base hn, ?_⟩
      interval_cases n <;> decide
    · obtain ⟨c, digits, hdigits, hc⟩ := ih (n / 10) (by omega) (by omega)
      exact ⟨c, _, by rw [Nat.toDigits_of_base_le (by omega) (by omega), hdigits]; rfl, hc⟩

theorem gives_readAfterInteger (positive : Bool) (significand : Nat) (hrest : Follows rest) :
    Gives (readAfterInteger positive significand 0 rest) (integer positive significand) rest := by
  cases rest with
  | nil => exact ⟨_, rfl⟩
  | cons c rest => rcases hrest c rfl with rfl | rfl | rfl <;> exact ⟨_, rfl⟩

/-- A magnitude of 64 bits is read back. -/
theorem gives_readMagnitude (positive : Bool) {n : Nat} (h : n < 2 ^ 64) (hrest : Follows rest) :
    Gives (readMagnitude positive (Nat.toDigits 10 n ++ rest)) (integer positive n) rest := by
  rcases Nat.eq_zero_or_pos n with rfl | hpos
  · have hend : ¬ rest.head?.any isDigit = true := by
      cases rest with
      | nil => simp
      | cons c rest => simp [hrest.isDigit_eq_false]
    rw [Nat.toDigits_zero, List.singleton_append, readMagnitude, if_pos rfl, if_neg hend]
    exact (gives_readAfterInteger positive 0 hrest).map fun _ => ⟨_, rfl⟩
  · obtain ⟨c, digits, hdigits, hc⟩ := exists_toDigits hpos
    have hall : ∀ d ∈ c :: digits, isDigit d = true := fun d hd =>
      isDigit_of_mem_toDigits (hdigits ▸ hd)
    obtain ⟨hcdigit, hall⟩ := List.forall_mem_cons.1 hall
    obtain ⟨hleading, hafter⟩ := leadingDigits_append hall hrest
    have hvalue : Nat.ofDigitChars 10 digits (digitValue c) = n := by
      have := Nat.ofDigitChars_ten_toDigits (n := n)
      rwa [hdigits, Nat.ofDigitChars_cons, Nat.mul_zero, Nat.zero_add] at this
    have habsorb : absorb (Nat.pow 2 64) (digitValue c) (leadingDigits (digits ++ rest)) =
        (n, []) := by
      rw [hleading, absorb_eq (hvalue.symm ▸ h), hvalue]
    have hnumber := gives_readAfterInteger positive n (hafter.symm ▸ hrest)
    rw [hdigits, List.cons_append, readMagnitude, if_neg hc, if_pos hcdigit, habsorb]
    exact (hnumber.of_eq hafter).map fun _ => ⟨_, rfl⟩

theorem readNumber_of_ne {c : Char} {cs : List Char} (h : c ≠ '-') :
    readNumber (c :: cs) = readMagnitude true (c :: cs) := by
  rw [readNumber]
  intro _ heq
  exact h (List.cons.inj heq).1

/-- A number is read back from its text. -/
def Number.ReadsBack (n : Number) : Prop :=
  ∀ rest, Follows rest → Gives (readNumber (n.text.toList ++ rest)) n rest

theorem Number.toList_text_ofNat (n : Nat) :
    (Number.int (.ofNat n)).text.toList = Nat.toDigits 10 n :=
  (congrArg String.toList Nat.toString_eq_ofList_toDigits).trans String.toList_ofList

theorem Number.toList_text_negSucc (n : Nat) :
    (Number.int (.negSucc n)).text.toList = '-' :: Nat.toDigits 10 (n + 1) := by
  change ("-" ++ (n + 1).repr).toList = _
  simp

theorem integer_false_succ {n : Nat} (h : n < 2 ^ 63) :
    integer false (n + 1) = .int (.negSucc n) := by
  rw [integer, if_neg (by decide), if_pos ⟨by omega, h⟩]
  rfl

/-- An integer of 64 bits is read back. -/
theorem Number.readsBack_int {n : Int} (h : Number.Fits (.int n)) : Number.ReadsBack (.int n) := by
  intro rest hrest
  obtain ⟨hlow, hhigh⟩ := h
  cases n with
  | ofNat n =>
    have hread := gives_readMagnitude true (n := n) (by simpa using hhigh) hrest
    obtain ⟨c, digits, hdigits⟩ : ∃ c digits, Nat.toDigits 10 n = c :: digits :=
      List.exists_cons_of_ne_nil Nat.toDigits_ne_nil
    have hminus : c ≠ '-' := by
      rintro rfl
      have hdigit : isDigit '-' = true := isDigit_of_mem_toDigits (n := n) (by simp [hdigits])
      exact absurd hdigit (by decide)
    rw [hdigits, List.cons_append] at hread
    rw [toList_text_ofNat, hdigits, List.cons_append, readNumber_of_ne hminus]
    exact hread
  | negSucc n =>
    have hread := gives_readMagnitude false (n := n + 1) (by omega) hrest
    rw [integer_false_succ (by omega)] at hread
    rw [toList_text_negSucc, List.cons_append, readNumber]
    exact hread.map fun _ => ⟨_, rfl⟩

end Numbers

/-! ### Items and members -/

/-- A text begins with something visible that does not close an array. -/
def Opens (cs : List Char) : Prop :=
  ∃ c rest, cs = c :: rest ∧ isSpace c = false ∧ c ≠ ']'

theorem Opens.skipSpace_eq {cs : List Char} (h : Opens cs) : skipSpace cs = cs := by
  obtain ⟨c, rest, rfl, hspace, -⟩ := h
  simp [skipSpace, hspace]

theorem Opens.sees_eq_false {cs : List Char} (h : Opens cs) : sees ']' cs = false := by
  rw [sees, h.skipSpace_eq]
  obtain ⟨c, rest, rfl, -, hc⟩ := h
  simpa using hc

section Nested

variable {α : Type} {item : (cs : List Char) → Reading α cs} {written : α → List Char}

/-- Whatever may stand behind it, something is read back from what is written for it. -/
def Returns (item : (cs : List Char) → Reading α cs) (written : α → List Char) (a : α) : Prop :=
  ∀ rest, Follows rest → Opens (written a ++ rest) ∧ Gives (item (written a ++ rest)) a rest

theorem intercalate_cons_cons (first next : α) (others : List α) (rest : List Char) :
    [','].intercalate ((first :: next :: others).map written) ++ rest =
      written first ++ ',' :: ([','].intercalate ((next :: others).map written) ++ rest) := by
  rw [List.map_cons, List.intercalate_cons_of_ne_nil (by simp)]
  simp

/-- Items begin as the first of them does. -/
theorem opens_items {first : α} (h : Returns item written first) (others : List α)
    (rest : List Char) :
    Opens ([','].intercalate ((first :: others).map written) ++ ']' :: rest) := by
  cases others with
  | nil =>
    rw [List.map_singleton, List.intercalate_singleton]
    exact (h _ (follows_cons (by simp))).1
  | cons next others =>
    rw [intercalate_cons_cons]
    exact (h _ (follows_cons (by simp))).1

theorem gives_comma {close : Char} (hclose : close ≠ ',') (eof missing : Cause) (rest : List Char) :
    Gives (readSeparator close eof missing (',' :: rest)) true rest := by
  have hskip : skipSpace (',' :: rest) = ',' :: rest := rfl
  unfold readSeparator
  split
  next hnil => simp [hskip] at hnil
  next c rest' hcs =>
    obtain ⟨rfl, rfl⟩ := List.cons.inj (hskip.symm.trans hcs)
    rw [if_neg hclose.symm, if_pos rfl]
    exact ⟨_, rfl⟩

theorem gives_readItems {first : α} {others : List α}
    (h : ∀ a ∈ first :: others, Returns item written a) (rest : List Char) :
    Gives (readItems item ([','].intercalate ((first :: others).map written) ++ ']' :: rest))
      (first :: others) rest := by
  induction others generalizing first with
  | nil =>
    have hfirst := (h first List.mem_cons_self (']' :: rest) (follows_cons (by simp))).2
    rw [List.map_singleton, List.intercalate_singleton, readItems]
    exact hfirst.bind fun _ => ⟨_, rfl⟩
  | cons next others ih =>
    obtain ⟨hfirst, hothers⟩ := List.forall_mem_cons.1 h
    have hnext := ih hothers
    have hopens := opens_items (hothers next List.mem_cons_self) others rest
    rw [intercalate_cons_cons, readItems]
    generalize [','].intercalate ((next :: others).map written) ++ ']' :: rest = more at *
    -- The first item, the comma, the look-out for a bracket behind it, and the other items.
    refine (hfirst _ (follows_cons (by simp))).2.bind fun _ => ?_
    refine (gives_comma (by decide) _ _ more).bind fun _ => ?_
    simp only [if_true]
    split
    next hsees => exact absurd hsees (ne_true_of_eq_false hopens.sees_eq_false)
    next => exact hnext.bind fun _ => ⟨_, rfl⟩

theorem gives_readArray {items : List α} (h : ∀ a ∈ items, Returns item written a)
    (rest : List Char) :
    Gives (readArray item ([','].intercalate (items.map written) ++ ']' :: rest)) items rest := by
  cases items with
  | nil => exact ⟨_, rfl⟩
  | cons first others =>
    have hitems := gives_readItems h rest
    have hopens := opens_items (h first List.mem_cons_self) others rest
    generalize [','].intercalate ((first :: others).map written) ++ ']' :: rest = cs at *
    have hskip := hopens.skipSpace_eq
    unfold readArray
    split
    next hnil =>
      obtain ⟨c, tail, rfl, -, -⟩ := hopens
      simp [hskip] at hnil
    next c tail hcs =>
      obtain rfl : cs = c :: tail := hskip.symm.trans hcs
      obtain ⟨d, more, heq, -, hd⟩ := hopens
      obtain ⟨rfl, rfl⟩ := List.cons.inj heq
      rw [if_neg hd]
      exact hitems.bind fun _ => ⟨_, rfl⟩

/-- What is written for a member. -/
def writtenMember (written : α → List Char) (entry : String × α) : List Char :=
  (quote entry.1).toList ++ ':' :: written entry.2

theorem toList_quote_append (key : String) (rest : List Char) :
    (quote key).toList ++ rest = '"' :: (key.toList.flatMap escape ++ '"' :: rest) := by
  simp [quote]

theorem gives_readKey (eof : Cause) (key : String) (rest : List Char) :
    Gives (readKey eof ((quote key).toList ++ rest)) key rest := by
  have hkey := gives_readString key rest
  rw [toList_quote_append]
  generalize key.toList.flatMap escape ++ '"' :: rest = cs at hkey
  have hskip : skipSpace ('"' :: cs) = '"' :: cs := rfl
  unfold readKey
  split
  next hnil => simp [hskip] at hnil
  next c tail hcs =>
    obtain ⟨rfl, rfl⟩ := List.cons.inj (hskip.symm.trans hcs)
    rw [if_pos rfl]
    exact hkey.bind fun _ => ⟨_, rfl⟩

theorem gives_readNextKey (key : String) (rest : List Char) :
    Gives (readNextKey ((quote key).toList ++ rest)) key rest := by
  have hsees : sees '\x7d' ((quote key).toList ++ rest) = false := by
    rw [toList_quote_append]
    rfl
  rw [readNextKey, if_neg (ne_true_of_eq_false hsees)]
  exact gives_readKey .eofValue key rest

/-- Members are read back from what stands behind the first key. -/
theorem gives_readMembers {key : String} {first : α} {others : List (String × α)}
    (h : ∀ entry ∈ (key, first) :: others, Returns item written entry.2) (rest : List Char) :
    ∃ more, [','].intercalate (((key, first) :: others).map (writtenMember written)) ++
        '\x7d' :: rest = (quote key).toList ++ ':' :: more ∧
      Gives (readMembers item key (':' :: more)) ((key, first) :: others) rest := by
  induction others generalizing key first with
  | nil =>
    have hfirst := (h (key, first) List.mem_cons_self ('\x7d' :: rest) (follows_cons (by simp))).2
    refine ⟨written first ++ '\x7d' :: rest, by simp [writtenMember], ?_⟩
    rw [readMembers]
    exact hfirst.bind fun _ => ⟨_, rfl⟩
  | cons next others ih =>
    obtain ⟨nextKey, next⟩ := next
    obtain ⟨hfirst, hothers⟩ := List.forall_mem_cons.1 h
    obtain ⟨more, hmore, hnext⟩ := ih hothers
    rw [intercalate_cons_cons, hmore]
    refine ⟨written first ++ ',' :: ((quote nextKey).toList ++ ':' :: more),
      by simp [writtenMember], ?_⟩
    rw [readMembers]
    -- The first value, the comma, the next key, and what stands behind it.
    refine (hfirst _ (follows_cons (by simp))).2.bind fun _ => ?_
    refine (gives_comma (by decide) _ _ _).bind fun _ => ?_
    simp only [if_true]
    refine (gives_readNextKey nextKey _).bind fun _ => ?_
    exact hnext.bind fun _ => ⟨_, rfl⟩

theorem gives_readObject {members : List (String × α)}
    (h : ∀ entry ∈ members, Returns item written entry.2) (rest : List Char) :
    Gives (readObject item
        ([','].intercalate (members.map (writtenMember written)) ++ '\x7d' :: rest))
      members rest := by
  cases members with
  | nil => exact ⟨_, rfl⟩
  | cons entry others =>
    obtain ⟨key, first⟩ := entry
    obtain ⟨more, hmore, hmembers⟩ := gives_readMembers h rest
    have hskip : skipSpace ((quote key).toList ++ ':' :: more) =
        (quote key).toList ++ ':' :: more := by
      rw [toList_quote_append]
      rfl
    rw [hmore]
    unfold readObject
    split
    next hnil => simp [hskip] at hnil
    next c tail hcs =>
      rw [hskip, toList_quote_append] at hcs
      obtain ⟨rfl, -⟩ := List.cons.inj hcs
      rw [if_neg (by decide)]
      exact (gives_readKey _ key _).bind fun _ => hmembers.bind fun _ => ⟨_, rfl⟩

end Nested

/-! ### Trees -/

/-- The characters of the compact text. -/
def characters (j : Json) : List Char :=
  j.text.toList

section Leaves

variable {cs rest : List Char} {c : Char} {j : Json} {depth : Nat}

/-- The reader of leaves refuses brackets, so what it reads is read as a value too. -/
theorem gives_readValue_leaf (hopens : Opens cs) (h : Gives (readLeaf cs) j rest) :
    Gives (readValue depth cs) j rest := by
  have hskip := hopens.skipSpace_eq
  unfold readValue
  split
  next tail hcs =>
    obtain rfl : cs = '[' :: tail := hskip.symm.trans hcs
    obtain ⟨_, hread⟩ := h
    simp [readLeaf, isDigit] at hread
  next tail hcs =>
    obtain rfl : cs = '\x7b' :: tail := hskip.symm.trans hcs
    obtain ⟨_, hread⟩ := h
    simp [readLeaf, isDigit] at hread
  next =>
    have hleaf : Gives (readLeaf (skipSpace cs)) j rest := by rwa [hskip]
    exact hleaf.bind fun _ => ⟨_, rfl⟩

theorem head_of_readNumber {n : Number} (h : Gives (readNumber cs) n rest) :
    ∃ c tail, cs = c :: tail ∧ (c = '-' ∨ isDigit c = true) := by
  obtain ⟨_, h⟩ := h
  unfold readNumber at h
  split at h
  next tail _ => exact ⟨'-', tail, rfl, .inl rfl⟩
  next =>
    unfold readMagnitude at h
    split at h
    next => simp at h
    next c tail _ _ =>
      refine ⟨c, tail, rfl, .inr ?_⟩
      split_ifs at h with hzero _ hdigit
      · rw [hzero]
        decide
      · exact hdigit

theorem opens_of_number (h : c = '-' ∨ isDigit c = true) : Opens (c :: cs) := by
  refine ⟨c, cs, rfl, ?_, ?_⟩
  · simp only [isSpace, Bool.or_eq_false_iff, beq_eq_false_iff_ne]
    refine ⟨⟨⟨?_, ?_⟩, ?_⟩, ?_⟩ <;> rintro rfl <;> revert h <;> decide
  · rintro rfl
    revert h
    decide

theorem readLeaf_number (h : c = '-' ∨ isDigit c = true) :
    readLeaf (c :: cs) = (readNumber (c :: cs)).map fun (n, r) => (.number n, r) := by
  rw [readLeaf, if_pos h]
  all_goals
    rintro rfl
    revert h
    decide

theorem returns_leaf (hc : isSpace c = false ∧ c ≠ ']') (h : Gives (readLeaf (c :: cs)) j rest) :
    Opens (c :: cs) ∧ Gives (readValue depth (c :: cs)) j rest :=
  have hopens : Opens (c :: cs) := ⟨c, cs, rfl, hc⟩
  ⟨hopens, gives_readValue_leaf hopens h⟩

theorem gives_readValue_array {items : List Json}
    (h : Gives (readArray (readValue depth) cs) items rest) :
    Gives (readValue (depth + 1) ('[' :: cs)) (.array items) rest := by
  have hskip : skipSpace ('[' :: cs) = '[' :: cs := rfl
  unfold readValue
  split
  next tail hcs =>
    obtain ⟨-, rfl⟩ := List.cons.inj (hskip.symm.trans hcs)
    exact h.bind fun _ => ⟨_, rfl⟩
  next tail hcs => simp [hskip] at hcs
  next hlist _ => exact absurd hskip (hlist cs)

theorem gives_readValue_object {members : List (String × Json)}
    (h : Gives (readObject (readValue depth) cs) members rest) :
    Gives (readValue (depth + 1) ('\x7b' :: cs)) (.object members) rest := by
  have hskip : skipSpace ('\x7b' :: cs) = '\x7b' :: cs := rfl
  unfold readValue
  split
  next tail hcs => simp [hskip] at hcs
  next tail hcs =>
    obtain ⟨-, rfl⟩ := List.cons.inj (hskip.symm.trans hcs)
    exact h.bind fun _ => ⟨_, rfl⟩
  next _ hobject => exact absurd hskip (hobject cs)

theorem returns_number {n : Number} (h : n.ReadsBack) :
    Returns (readValue depth) characters (.number n) := by
  intro rest hrest
  have hread := h rest hrest
  rw [show (number n).characters = n.text.toList from rfl]
  obtain ⟨c, tail, hcs, hc⟩ := head_of_readNumber hread
  rw [hcs] at hread ⊢
  refine ⟨opens_of_number hc, gives_readValue_leaf (opens_of_number hc) ?_⟩
  rw [readLeaf_number hc]
  exact hread.map fun _ => ⟨_, rfl⟩

end Leaves

theorem characters_string (s : String) (rest : List Char) :
    (Json.string s).characters ++ rest = '"' :: (s.toList.flatMap escape ++ '"' :: rest) :=
  toList_quote_append s rest

theorem characters_array (items : List Json) (rest : List Char) :
    (Json.array items).characters ++ rest =
      '[' :: ([','].intercalate (items.map characters) ++ ']' :: rest) := by
  have hitems : (itemTexts items).map String.toList = items.map characters := by
    rw [itemTexts_eq_map, List.map_map]
    rfl
  simp [characters, text, hitems]

theorem characters_object (members : List (String × Json)) (rest : List Char) :
    (Json.object members).characters ++ rest =
      '\x7b' :: ([','].intercalate (members.map (writtenMember characters)) ++
        '\x7d' :: rest) := by
  have hmembers : (memberTexts members).map String.toList =
      members.map (writtenMember characters) := by
    rw [memberTexts_eq_map, List.map_map]
    exact List.map_congr_left fun entry _ => by simp [writtenMember, characters]
  simp [characters, text, hmembers]

/-- A tree is read back from its text, whatever may stand behind it. -/
theorem returns_readValue {depth : Nat} {j : Json} (h : j.Legible Number.ReadsBack depth) :
    Returns (readValue depth) characters j := by
  induction h with
  | null => exact fun rest _ => returns_leaf (by decide) ⟨_, rfl⟩
  | @bool _ b =>
    cases b
    · exact fun rest _ => returns_leaf (by decide) ⟨_, rfl⟩
    · exact fun rest _ => returns_leaf (by decide) ⟨_, rfl⟩
  | @string _ s =>
    intro rest _
    rw [characters_string]
    exact returns_leaf (by decide) ((gives_readString s rest).map fun _ => ⟨_, rfl⟩)
  | number h => exact returns_number h
  | @array depth items _ ih =>
    intro rest _
    rw [characters_array]
    refine ⟨⟨_, _, rfl, by decide⟩, ?_⟩
    exact gives_readValue_array (gives_readArray ih rest)
  | @object depth members _ ih =>
    intro rest _
    rw [characters_object]
    refine ⟨⟨_, _, rfl, by decide⟩, ?_⟩
    exact gives_readValue_object (gives_readObject ih rest)

/-- **A tree is read back from its text**, if its brackets nest no deeper than the reader goes and
its numbers are read back. -/
theorem read_text {j : Json} (h : j.Legible Number.ReadsBack maxDepth) :
    read j.text.toList = .ok j := by
  have hgives := (returns_readValue h [] follows_nil).2
  rw [List.append_nil] at hgives
  obtain ⟨_, hread⟩ := hgives
  rw [read, ← characters, hread]
  rfl

end RowSchema.Json
