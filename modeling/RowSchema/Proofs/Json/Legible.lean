import Mathlib.Algebra.Order.Ring.Int
import Mathlib.Tactic.Common
import RowSchema.Json.Reader
import RowSchema.Proofs.Dict
import RowSchema.Proofs.Except

/-!
# Trees that have been read

What a reader gives has brackets only as deep as the reader goes, and its integers have 64 bits.
This is all that is needed to read its text again, but for the floats in it.

## Main definitions

* `Json.Number.Fits` — integers of 64 bits
* `Json.Legible` — trees by the depth of their brackets and by their numbers

## Main results

* `Json.legible_of_readValue` — a tree that has been read
* `Json.Legible.value` — its value
-/

namespace RowSchema.Json

/-- An integer that is read has 64 bits with its sign. Nothing is asked of a float. -/
def Number.Fits : Number → Prop
  | .int n => -2 ^ 63 ≤ n ∧ n < 2 ^ 64
  | .float _ => True

/-- The brackets of a tree nest at most `depth` deep, and every number in it meets `P`. -/
inductive Legible (P : Number → Prop) : Nat → Json → Prop
  | null {depth : Nat} : Legible P depth .null
  | bool {depth : Nat} {b : Bool} : Legible P depth (.bool b)
  | string {depth : Nat} {s : String} : Legible P depth (.string s)
  | number {depth : Nat} {n : Number} (h : P n) : Legible P depth (.number n)
  | array {depth : Nat} {items : List Json} (h : ∀ item ∈ items, Legible P depth item) :
      Legible P (depth + 1) (.array items)
  | object {depth : Nat} {members : List (String × Json)}
      (h : ∀ entry ∈ members, Legible P depth entry.2) : Legible P (depth + 1) (.object members)

namespace Legible

variable {P Q R : Number → Prop} {depth depth' : Nat} {j : Json}

/-- What is known of the numbers of a tree from two sources is put together. -/
theorem combine (h : j.Legible P depth) (h' : j.Legible Q depth') (hR : ∀ n, P n → Q n → R n) :
    j.Legible R depth := by
  induction h generalizing depth' with
  | null => exact .null
  | bool => exact .bool
  | string => exact .string
  | number hP =>
    cases h' with
    | number hQ => exact .number (hR _ hP hQ)
  | array _ ih =>
    cases h' with
    | array hQ => exact .array fun item hitem => ih item hitem (hQ item hitem)
  | object _ ih =>
    cases h' with
    | object hQ => exact .object fun entry hentry => ih entry hentry (hQ entry hentry)

/-- The value of a tree holds no number that the tree does not hold. -/
theorem value (h : j.Legible P depth) : j.value.Legible P depth := by
  induction h with
  | null => exact .null
  | bool => exact .bool
  | string => exact .string
  | number hP => exact .number hP
  | array _ ih =>
    rw [Json.value, valueItems_eq_map]
    refine .array fun item hitem => ?_
    obtain ⟨source, hsource, rfl⟩ := List.mem_map.1 hitem
    exact ih source hsource
  | object _ ih =>
    rw [Json.value]
    refine .object fun entry hentry => ?_
    have hmem := Dict.mem_of_mem_ofEntries hentry
    rw [valueMembers_eq_map] at hmem
    obtain ⟨source, hsource, rfl⟩ := List.mem_map.1 hmem
    exact ih source hsource

end Legible

/-! ### Numbers that are read -/

section Numbers

variable {positive : Bool} {significand dropped : Nat} {exponent : Int} {cs : List Char}
  {n : Number}

theorem fits_of_scaledNumber (h : scaledNumber positive significand exponent cs = .ok n) :
    n.Fits := by
  unfold scaledNumber at h
  split at h
  next => exact Except.ok.inj h ▸ trivial
  next => simp at h

theorem fits_of_readExponent {r : Remainder cs}
    (h : readExponent positive significand exponent cs = .ok (n, r)) : n.Fits := by
  simp only [readExponent] at h
  split at h
  next => simp at h
  next =>
    split at h
    next => simp at h
    next =>
      split at h
      next =>
        obtain ⟨m, hm, rfl⟩ := exists_fst_of_map_eq_ok h
        exact fits_of_scaledNumber hm
      next =>
        split at h
        next => simp at h
        next => exact (Prod.mk.inj (Except.ok.inj h)).1 ▸ trivial

theorem fits_of_readScale {r : Remainder cs}
    (h : readScale positive significand exponent cs = .ok (n, r)) : n.Fits := by
  unfold readScale at h
  split at h
  next c rest =>
    split at h
    next =>
      obtain ⟨⟨m, q⟩, hq, rfl⟩ := exists_fst_of_map_eq_ok h
      exact fits_of_readExponent hq
    next =>
      obtain ⟨m, hm, rfl⟩ := exists_fst_of_map_eq_ok h
      exact fits_of_scaledNumber hm
  next =>
    obtain ⟨m, hm, rfl⟩ := exists_fst_of_map_eq_ok h
    exact fits_of_scaledNumber hm

theorem fits_of_readFraction {r : Remainder cs}
    (h : readFraction positive significand exponent cs = .ok (n, r)) : n.Fits := by
  unfold readFraction at h
  split at h
  next => simp at h
  next =>
    obtain ⟨⟨m, q⟩, hq, rfl⟩ := exists_fst_of_map_eq_ok h
    exact fits_of_readScale hq

/-- An integer is either small enough for its sign or becomes a float. -/
theorem fits_integer (positive : Bool) (h : significand < 2 ^ 64) :
    (integer positive significand).Fits := by
  unfold integer
  split_ifs with hpositive hfits
  · exact ⟨by omega, by omega⟩
  · obtain ⟨-, hle⟩ := hfits
    have hle : significand ≤ 2 ^ 63 := hle
    exact ⟨by omega, by omega⟩
  · trivial

theorem fits_of_readAfterInteger {r : Remainder cs} (hbound : significand < 2 ^ 64)
    (h : readAfterInteger positive significand dropped cs = .ok (n, r)) : n.Fits := by
  unfold readAfterInteger at h
  split at h
  next rest =>
    obtain ⟨⟨m, q⟩, hq, rfl⟩ := exists_fst_of_map_eq_ok h
    exact fits_of_readFraction hq
  next c rest _ =>
    split at h
    next => exact (Prod.mk.inj (Except.ok.inj h)).1 ▸ fits_integer positive hbound
    next => exact fits_of_readScale h
  next =>
    split at h
    next => exact (Prod.mk.inj (Except.ok.inj h)).1 ▸ fits_integer positive hbound
    next => exact fits_of_readScale h

theorem absorb_lt {bound : Nat} (digits : List Char) (h : significand < bound) :
    (absorb bound significand digits).1 < bound := by
  induction digits generalizing significand with
  | nil => exact h
  | cons c digits ih =>
    simp only [absorb]
    split
    next hnext => exact ih hnext
    next => exact h

theorem digitValue_lt {c : Char} (h : isDigit c = true) : digitValue c < 10 := by
  have hle : c ≤ '9' := by
    simp only [isDigit, Bool.and_eq_true, decide_eq_true_eq] at h
    exact h.2
  have hnat : c.toNat ≤ '9'.toNat := UInt32.le_iff_toNat_le.1 hle
  rw [digitValue]
  exact Nat.lt_succ_of_le (Nat.sub_le_sub_right hnat _)

theorem fits_of_readMagnitude {r : Shorter cs} (h : readMagnitude positive cs = .ok (n, r)) :
    n.Fits := by
  unfold readMagnitude at h
  split at h
  next => simp at h
  next c rest =>
    split_ifs at h with hzero hnext hdigit
    · obtain ⟨⟨m, q⟩, hq, rfl⟩ := exists_fst_of_map_eq_ok h
      exact fits_of_readAfterInteger (by omega) hq
    · obtain ⟨⟨m, q⟩, hq, rfl⟩ := exists_fst_of_map_eq_ok h
      have hfirst : digitValue c < Nat.pow 2 64 :=
        Nat.lt_trans (digitValue_lt hdigit) (by decide)
      exact fits_of_readAfterInteger (absorb_lt _ hfirst) hq

theorem fits_of_readNumber {r : Shorter cs} (h : readNumber cs = .ok (n, r)) : n.Fits := by
  unfold readNumber at h
  split at h
  next =>
    obtain ⟨⟨m, q⟩, hq, rfl⟩ := exists_fst_of_map_eq_ok h
    exact fits_of_readMagnitude hq
  next => exact fits_of_readMagnitude h

end Numbers

/-! ### Trees that are read -/

section Nested

variable {α : Type} {item : (cs : List Char) → Reading α cs} {P : α → Prop} {cs : List Char}

/-- What holds of everything that is read as an item holds of all items of an array. -/
theorem forall_of_readItems (hitem : ∀ cs a r, item cs = .ok (a, r) → P a) {items : List α}
    {r : Shorter cs} (h : readItems item cs = .ok (items, r)) : ∀ a ∈ items, P a := by
  induction cs using readItems.induct generalizing items with
  | case1 cs ih =>
    rw [readItems] at h
    obtain ⟨⟨first, r₁⟩, hfirst, h⟩ := bind_eq_ok_iff.1 h
    obtain ⟨⟨more, r₂⟩, -, h⟩ := bind_eq_ok_iff.1 h
    cases more with
    | false =>
      obtain ⟨rfl, rfl⟩ := Prod.mk.inj (Except.ok.inj h)
      exact List.forall_mem_singleton.2 (hitem cs first r₁ hfirst)
    | true =>
      simp only [if_true] at h
      split_ifs at h
      · exact absurd h (throw_bind_ne_ok _ _ _)
      · obtain ⟨⟨others, r₃⟩, hothers, h⟩ := bind_eq_ok_iff.1 h
        obtain ⟨rfl, rfl⟩ := Prod.mk.inj (Except.ok.inj h)
        exact List.forall_mem_cons.2 ⟨hitem cs first r₁ hfirst, ih r₁ r₂ hothers⟩

theorem forall_of_readArray (hitem : ∀ cs a r, item cs = .ok (a, r) → P a) {items : List α}
    {r : Shorter cs} (h : readArray item cs = .ok (items, r)) : ∀ a ∈ items, P a := by
  unfold readArray at h
  split at h
  next => simp at h
  next c rest hcs =>
    split_ifs at h
    · obtain ⟨rfl, rfl⟩ := Prod.mk.inj (Except.ok.inj h)
      simp
    · obtain ⟨⟨items', q⟩, hitems, h⟩ := bind_eq_ok_iff.1 h
      obtain ⟨rfl, rfl⟩ := Prod.mk.inj (Except.ok.inj h)
      exact forall_of_readItems hitem hitems

theorem forall_of_readMembers (hitem : ∀ cs a r, item cs = .ok (a, r) → P a) {key : String}
    {members : List (String × α)} {r : Shorter cs}
    (h : readMembers item key cs = .ok (members, r)) : ∀ entry ∈ members, P entry.2 := by
  induction key, cs using readMembers.induct generalizing members with
  | case1 key cs ih =>
    rw [readMembers] at h
    obtain ⟨r₁, -, h⟩ := bind_eq_ok_iff.1 h
    obtain ⟨⟨first, r₂⟩, hfirst, h⟩ := bind_eq_ok_iff.1 h
    obtain ⟨⟨more, r₃⟩, -, h⟩ := bind_eq_ok_iff.1 h
    cases more with
    | false =>
      obtain ⟨rfl, rfl⟩ := Prod.mk.inj (Except.ok.inj h)
      exact List.forall_mem_singleton.2 (hitem r₁.1 first r₂ hfirst)
    | true =>
      obtain ⟨⟨next, r₄⟩, -, h⟩ := bind_eq_ok_iff.1 h
      obtain ⟨⟨others, r₅⟩, hothers, h⟩ := bind_eq_ok_iff.1 h
      obtain ⟨rfl, rfl⟩ := Prod.mk.inj (Except.ok.inj h)
      exact List.forall_mem_cons.2 ⟨hitem r₁.1 first r₂ hfirst, ih r₁ r₂ r₃ next r₄ hothers⟩

theorem forall_of_readObject (hitem : ∀ cs a r, item cs = .ok (a, r) → P a)
    {members : List (String × α)} {r : Shorter cs} (h : readObject item cs = .ok (members, r)) :
    ∀ entry ∈ members, P entry.2 := by
  unfold readObject at h
  split at h
  next => simp at h
  next c rest hcs =>
    split_ifs at h
    · obtain ⟨rfl, rfl⟩ := Prod.mk.inj (Except.ok.inj h)
      simp
    · obtain ⟨⟨key, q⟩, -, h⟩ := bind_eq_ok_iff.1 h
      obtain ⟨⟨members', s⟩, hmembers, h⟩ := bind_eq_ok_iff.1 h
      obtain ⟨rfl, rfl⟩ := Prod.mk.inj (Except.ok.inj h)
      exact forall_of_readMembers hitem hmembers

end Nested

theorem legible_of_readLeaf {cs : List Char} {j : Json} {r : Shorter cs} {depth : Nat}
    (h : readLeaf cs = .ok (j, r)) : j.Legible Number.Fits depth := by
  unfold readLeaf at h
  split at h
  next => simp at h
  next =>
    obtain ⟨q, -, rfl⟩ := exists_fst_of_map_eq_ok h
    exact .null
  next =>
    obtain ⟨q, -, rfl⟩ := exists_fst_of_map_eq_ok h
    exact .bool
  next =>
    obtain ⟨q, -, rfl⟩ := exists_fst_of_map_eq_ok h
    exact .bool
  next =>
    obtain ⟨⟨s, q⟩, -, rfl⟩ := exists_fst_of_map_eq_ok h
    exact .string
  next =>
    split_ifs at h
    obtain ⟨⟨n, q⟩, hn, rfl⟩ := exists_fst_of_map_eq_ok h
    exact .number (fits_of_readNumber hn)

/-- A tree that has been read keeps to the depth of its reader, and its integers have 64 bits. -/
theorem legible_of_readValue {depth : Nat} {cs : List Char} {j : Json} {r : Shorter cs}
    (h : readValue depth cs = .ok (j, r)) : j.Legible Number.Fits depth := by
  induction depth generalizing cs j with
  | zero =>
    unfold readValue at h
    split at h
    next => simp at h
    next => simp at h
    next =>
      obtain ⟨⟨k, q⟩, hleaf, h⟩ := bind_eq_ok_iff.1 h
      exact (Prod.mk.inj (Except.ok.inj h)).1 ▸ legible_of_readLeaf hleaf
  | succ depth ih =>
    have hitem : ∀ cs j r, readValue depth cs = .ok (j, r) → j.Legible Number.Fits depth :=
      fun _ _ _ hread => ih hread
    unfold readValue at h
    split at h
    next =>
      obtain ⟨⟨items, q⟩, hitems, h⟩ := bind_eq_ok_iff.1 h
      exact (Prod.mk.inj (Except.ok.inj h)).1 ▸ .array (forall_of_readArray hitem hitems)
    next =>
      obtain ⟨⟨members, q⟩, hmembers, h⟩ := bind_eq_ok_iff.1 h
      exact (Prod.mk.inj (Except.ok.inj h)).1 ▸ .object (forall_of_readObject hitem hmembers)
    next =>
      obtain ⟨⟨k, q⟩, hleaf, h⟩ := bind_eq_ok_iff.1 h
      exact (Prod.mk.inj (Except.ok.inj h)).1 ▸ legible_of_readLeaf hleaf

end RowSchema.Json
