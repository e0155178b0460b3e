import Mathlib.Data.List.DropRight
import RowSchema.Json.Skip
import RowSchema.Proofs.Except

/-!
# Passing over what could be read

The scanner is more liberal than the reader. Where the reader succeeds, the scanner does too, and
both stop at the same place.

## Main results

* `Json.skipString_of_readString`, `Json.skipLeaf_of_readLeaf` — texts without brackets
* `Json.skipValue_of_readValue` — any value
-/

namespace RowSchema.Json

/-! ### Numbers -/

section Numbers

variable {positive : Bool} {significand dropped : Nat} {exponent : Int} {cs : List Char}
  {n : Number}

theorem skipExponent_of_readExponent {r : Remainder cs}
    (h : readExponent positive significand exponent cs = .ok (n, r)) :
    skipExponent cs = .ok r := by
  simp only [readExponent] at h
  simp only [skipExponent]
  split at h
  next => simp at h
  next c more hdigits =>
    split at h
    next => simp at h
    next hc =>
      have hany : (Remainder.afterSign cs).1.head?.any isDigit = true := by
        simpa [hdigits] using hc
      rw [if_pos hany]
      split at h
      next =>
        obtain ⟨m, -, hm⟩ := map_eq_ok_iff.1 h
        rw [← (Prod.mk.inj hm).2]
      next =>
        split at h
        next => simp at h
        next => rw [← (Prod.mk.inj (Except.ok.inj h)).2]

theorem skipScale_of_readScale {r : Remainder cs}
    (h : readScale positive significand exponent cs = .ok (n, r)) : skipScale cs = .ok r := by
  unfold readScale at h
  unfold skipScale
  split at h
  next c rest =>
    split at h
    next he =>
      obtain ⟨⟨m, q⟩, hq, hr⟩ := map_eq_ok_iff.1 h
      obtain ⟨rfl, rfl⟩ := Prod.mk.inj hr
      simp only [if_pos he, skipExponent_of_readExponent hq, Except.map]
    next he =>
      obtain ⟨m, -, hr⟩ := map_eq_ok_iff.1 h
      obtain ⟨rfl, rfl⟩ := Prod.mk.inj hr
      simp only [if_neg he]
  next =>
    obtain ⟨m, -, hr⟩ := map_eq_ok_iff.1 h
    obtain ⟨rfl, rfl⟩ := Prod.mk.inj hr
    rfl

theorem skipFraction_of_readFraction {r : Remainder cs}
    (h : readFraction positive significand exponent cs = .ok (n, r)) :
    cs.head?.any isDigit = true ∧
      ∃ q, skipScale (afterDigits cs) = .ok q ∧ r = (Remainder.afterDigits cs).trans q := by
  unfold readFraction at h
  split at h
  next => simp at h
  next hdigits =>
    obtain ⟨⟨m, q⟩, hq, hr⟩ := map_eq_ok_iff.1 h
    refine ⟨?_, q, skipScale_of_readScale hq, (Prod.mk.inj hr).2.symm⟩
    cases cs with
    | nil => exact absurd rfl hdigits
    | cons c rest =>
      cases hc : isDigit c with
      | true => simp [hc]
      | false => exact absurd (by simp [leadingDigits, hc]) hdigits

theorem skipAfterInteger_of_ne {c : Char} {rest : List Char} (h : c ≠ '.') :
    skipAfterInteger (c :: rest) = skipScale (c :: rest) := by
  rw [skipAfterInteger]
  intro _ heq
  exact h (List.cons.inj heq).1

theorem skipAfterInteger_of_readAfterInteger {r : Remainder cs}
    (h : readAfterInteger positive significand dropped cs = .ok (n, r)) :
    skipAfterInteger cs = .ok r := by
  unfold readAfterInteger at h
  split at h
  next rest =>
    obtain ⟨⟨m, q⟩, hq, hr⟩ := map_eq_ok_iff.1 h
    obtain ⟨rfl, rfl⟩ := Prod.mk.inj hr
    obtain ⟨hdigit, q, hskip, rfl⟩ := skipFraction_of_readFraction hq
    simp only [skipAfterInteger, if_pos hdigit, hskip, Except.map]
  next c rest hdot =>
    rw [skipAfterInteger_of_ne hdot]
    split at h
    next hinteger =>
      obtain ⟨rfl, rfl⟩ := Prod.mk.inj (Except.ok.inj h)
      simp [skipScale, hinteger]
    next => exact skipScale_of_readScale h
  next =>
    split at h
    next =>
      obtain ⟨rfl, rfl⟩ := Prod.mk.inj (Except.ok.inj h)
      rfl
    next => exact skipScale_of_readScale h

theorem skipMagnitude_of_readMagnitude {r : Shorter cs}
    (h : readMagnitude positive cs = .ok (n, r)) : skipMagnitude cs = .ok r := by
  unfold readMagnitude at h
  unfold skipMagnitude
  split at h
  next => simp at h
  next c rest =>
    split_ifs at h with hzero hdigit hdigit'
    · obtain ⟨⟨m, q⟩, hq, hr⟩ := map_eq_ok_iff.1 h
      obtain ⟨rfl, rfl⟩ := Prod.mk.inj hr
      simp only [if_pos hzero, if_neg hdigit, skipAfterInteger_of_readAfterInteger hq, Except.map]
    · obtain ⟨⟨m, q⟩, hq, hr⟩ := map_eq_ok_iff.1 h
      obtain ⟨rfl, rfl⟩ := Prod.mk.inj hr
      simp only [if_neg hzero, if_pos hdigit', skipAfterInteger_of_readAfterInteger hq, Except.map]

end Numbers

/-! ### Strings -/

section Strings

variable {cs : List Char}

/-- Where a scan stops, if it does not fail. -/
def stop {p : List Char → Prop} (x : Except Fault { r : List Char // p r }) :
    Except Fault (List Char) :=
  x.map Subtype.val

/-- Handing on what is left does not move it. -/
theorem stop_bind_ok {p q : List Char → Prop} {x : Except Fault { r : List Char // p r }}
    {f : { r : List Char // p r } → { r : List Char // q r }} (h : ∀ r, (f r).1 = r.1) :
    stop (x.bind fun r => .ok (f r)) = stop x := by
  cases x with
  | error e => rfl
  | ok r => exact congrArg Except.ok (h r)

theorem stop_skipString_backslash (cs : List Char) :
    stop (skipString ('\\' :: cs)) =
      (stop (skipEscape cs)).bind fun rest => stop (skipString rest) := by
  rw [skipString]
  cases skipEscape cs with
  | error e => rfl
  | ok r =>
    exact stop_bind_ok (x := skipString r.1) fun _ => rfl

theorem stop_skipString_unicode {n : Nat} {r : Shorter cs} (h : readHexUnit cs = .ok (n, r)) :
    stop (skipString ('\\' :: 'u' :: cs)) = stop (skipString r.1) := by
  rw [stop_skipString_backslash, skipEscape, h]
  rfl

theorem stop_skipString_of_readTrailingUnit {lead : Nat} {c : Char} {r : Shorter cs}
    (h : readTrailingUnit lead cs = .ok (c, r)) :
    stop (skipString cs) = stop (skipString r.1) := by
  unfold readTrailingUnit at h
  split at h
  next rest =>
    obtain ⟨⟨n, t⟩, ht, h⟩ := bind_eq_ok_iff.1 h
    simp only at h
    split_ifs at h
    obtain ⟨rfl, rfl⟩ := Prod.mk.inj (Except.ok.inj h)
    rw [stop_skipString_unicode ht]
    rfl
  next => simp at h
  next => simp at h

/-- An escape that stands for one character may be two for the scanner. -/
theorem stop_skipString_of_readEscape {c : Char} {r : Shorter cs} (h : readEscape cs = .ok (c, r)) :
    stop (skipString ('\\' :: cs)) = stop (skipString r.1) := by
  unfold readEscape at h
  split at h
  next => simp at h
  next rest =>
    obtain ⟨⟨d, q⟩, hq, hr⟩ := map_eq_ok_iff.1 h
    obtain ⟨rfl, rfl⟩ := Prod.mk.inj hr
    unfold readUnicodeEscape at hq
    obtain ⟨⟨n, t⟩, ht, hq⟩ := bind_eq_ok_iff.1 hq
    rw [stop_skipString_unicode ht]
    simp only at hq
    split_ifs at hq with htrail hlead
    · obtain ⟨⟨d', q'⟩, hpair, hq⟩ := map_eq_ok_iff.1 hq
      obtain ⟨rfl, rfl⟩ := Prod.mk.inj hq
      rw [stop_skipString_of_readTrailingUnit hpair]
      rfl
    · obtain ⟨rfl, rfl⟩ := Prod.mk.inj (Except.ok.inj hq)
      rfl
  next c rest hu =>
    split at h
    next x hx =>
      obtain ⟨rfl, rfl⟩ := Prod.mk.inj (Except.ok.inj h)
      rw [stop_skipString_backslash, skipEscape, if_pos (by simp [hx])]
      · rfl
      · exact hu
    next => simp at h

theorem stop_skipString_of_readCharacters {s : List Char} {r : Shorter cs}
    (h : readCharacters cs = .ok (s, r)) : stop (skipString cs) = .ok r.1 := by
  induction cs using readCharacters.induct generalizing s with
  | case1 => simp [readCharacters] at h
  | case2 rest =>
    rw [readCharacters] at h
    obtain ⟨rfl, rfl⟩ := Prod.mk.inj (Except.ok.inj h)
    rw [skipString]
    rfl
  | case3 rest ih =>
    rw [readCharacters] at h
    obtain ⟨⟨c, q⟩, hq, h⟩ := bind_eq_ok_iff.1 h
    obtain ⟨⟨more, t⟩, ht, h⟩ := bind_eq_ok_iff.1 h
    obtain ⟨rfl, rfl⟩ := Prod.mk.inj (Except.ok.inj h)
    rw [stop_skipString_of_readEscape hq, ih q ht]
    rfl
  | case4 c rest hquote hback hlow =>
    rw [readCharacters, if_pos hlow] at h
    · simp at h
    · exact hquote
    · exact hback
  | case5 c rest hquote hback hlow ih =>
    rw [readCharacters, if_neg hlow] at h
    · obtain ⟨⟨more, t⟩, ht, h⟩ := bind_eq_ok_iff.1 h
      obtain ⟨rfl, rfl⟩ := Prod.mk.inj (Except.ok.inj h)
      rw [skipString, if_neg hlow]
      · obtain ⟨q, hq, hval⟩ := map_eq_ok_iff.1 (ih ht)
        rw [hq]
        exact congrArg Except.ok hval
      · exact hquote
      · exact hback
    · exact hquote
    · exact hback

/-- A string is passed over if it can be read. -/
theorem skipString_of_readString {s : String} {r : Shorter cs} (h : readString cs = .ok (s, r)) :
    skipString cs = .ok r := by
  obtain ⟨⟨t, q⟩, hq, h⟩ := map_eq_ok_iff.1 h
  obtain ⟨rfl, rfl⟩ := Prod.mk.inj h
  obtain ⟨r, hr, hval⟩ := map_eq_ok_iff.1 (stop_skipString_of_readCharacters hq)
  rw [hr, Subtype.ext hval]

/-- Behind a quote, a key is a string with a colon. -/
theorem skipKey_quote {rest : List Char} (h : skipSpace cs = '"' :: rest) :
    skipKey cs = (skipString rest).bind fun r => (readColon r.1).bind fun s =>
      .ok ((Shorter.ofSkip h).trans (r.trans s)) := by
  unfold skipKey
  split
  next hnil => simp [hnil] at h
  next c rest' hcs =>
    obtain ⟨rfl, rfl⟩ := List.cons.inj (h.symm.trans hcs)
    rw [if_pos rfl]
    rfl

theorem skipKey_of_readKey {eof : Cause} {key : String} {r : Shorter cs} {s : Shorter r.1}
    (hkey : readKey eof cs = .ok (key, r)) (hcolon : readColon r.1 = .ok s) :
    skipKey cs = .ok (r.trans s) := by
  unfold readKey at hkey
  split at hkey
  next => simp at hkey
  next c rest hcs =>
    split_ifs at hkey with hquote
    obtain ⟨⟨name, q⟩, hq, hkey⟩ := bind_eq_ok_iff.1 hkey
    obtain ⟨rfl, rfl⟩ := Prod.mk.inj (Except.ok.inj hkey)
    rw [skipKey_quote (hquote ▸ hcs), skipString_of_readString hq]
    exact congrArg (·.bind fun s => Except.ok ((Shorter.ofSkip hcs).trans (q.trans s))) hcolon

end Strings

/-! ### Values -/

theorem skipLeaf_of_readLeaf {cs : List Char} {j : Json} {r : Shorter cs}
    (h : readLeaf cs = .ok (j, r)) : skipLeaf cs = .ok r := by
  unfold readLeaf at h
  split at h
  next => simp at h
  next rest =>
    obtain ⟨q, hq, hr⟩ := map_eq_ok_iff.1 h
    obtain ⟨rfl, rfl⟩ := Prod.mk.inj hr
    rw [skipLeaf, hq]
    rfl
  next rest =>
    obtain ⟨q, hq, hr⟩ := map_eq_ok_iff.1 h
    obtain ⟨rfl, rfl⟩ := Prod.mk.inj hr
    rw [skipLeaf, hq]
    rfl
  next rest =>
    obtain ⟨q, hq, hr⟩ := map_eq_ok_iff.1 h
    obtain ⟨rfl, rfl⟩ := Prod.mk.inj hr
    rw [skipLeaf, hq]
    rfl
  next rest =>
    obtain ⟨⟨s, q⟩, hq, hr⟩ := map_eq_ok_iff.1 h
    obtain ⟨rfl, rfl⟩ := Prod.mk.inj hr
    rw [skipLeaf, skipString_of_readString hq]
    rfl
  next c rest hn ht hf hquote =>
    split_ifs at h with hc
    obtain ⟨⟨n, q⟩, hq, hr⟩ := map_eq_ok_iff.1 h
    obtain ⟨rfl, rfl⟩ := Prod.mk.inj hr
    by_cases hminus : c = '-'
    · subst hminus
      rw [readNumber] at hq
      obtain ⟨⟨m, t⟩, ht, hq⟩ := map_eq_ok_iff.1 hq
      obtain ⟨rfl, rfl⟩ := Prod.mk.inj hq
      rw [skipLeaf, skipMagnitude_of_readMagnitude ht]
      rfl
    · have hdigit : isDigit c = true := hc.resolve_left hminus
      rw [readNumber] at hq
      · rw [skipLeaf, if_pos hdigit, skipMagnitude_of_readMagnitude hq]
        all_goals assumption
      · rintro _ heq
        exact hminus (List.cons.inj heq).1

/-! What the scanner does next depends on the next visible character only. -/

section Within

variable {cs rest : List Char} (opened : List Opened)

theorem stop_skipWithin_list (h : skipSpace cs = '[' :: rest) :
    stop (skipWithin opened cs) =
      if sees ']' rest then stop (closeWithin (.list :: opened) rest)
      else if (skipSpace rest).isEmpty then .error (.atEnd .eofList)
      else stop (skipWithin (.list :: opened) rest) := by
  rw [skipWithin]
  split
  next rest' hcs =>
    obtain ⟨-, rfl⟩ := List.cons.inj (hcs.symm.trans h)
    split_ifs
    · cases closeWithin (.list :: opened) rest' <;> rfl
    · rfl
    · cases skipWithin (.list :: opened) rest' <;> rfl
  next rest' hcs => simp [h] at hcs
  next hlist hobject => exact absurd h (hlist _)

theorem stop_skipWithin_object (h : skipSpace cs = '\x7b' :: rest) :
    stop (skipWithin opened cs) =
      if sees '\x7d' rest then stop (closeWithin (.object :: opened) rest)
      else (stop (skipKey rest)).bind fun r => stop (skipWithin (.object :: opened) r) := by
  rw [skipWithin]
  split
  next rest' hcs => simp [h] at hcs
  next rest' hcs =>
    obtain ⟨-, rfl⟩ := List.cons.inj (hcs.symm.trans h)
    split_ifs
    · cases closeWithin (.object :: opened) rest' <;> rfl
    · cases skipKey rest' with
      | error e => rfl
      | ok r => exact stop_bind_ok (x := skipWithin (.object :: opened) r.1) fun _ => rfl
  next hlist hobject => exact absurd h (hobject _)

theorem stop_skipWithin_leaf (hlist : ∀ rest, skipSpace cs ≠ '[' :: rest)
    (hobject : ∀ rest, skipSpace cs ≠ '\x7b' :: rest) :
    stop (skipWithin opened cs) =
      (stop (skipLeaf (skipSpace cs))).bind fun r => stop (closeWithin opened r) := by
  rw [skipWithin]
  split
  next rest' hcs => exact absurd hcs (hlist _)
  next rest' hcs => exact absurd hcs (hobject _)
  next =>
    cases skipLeaf (skipSpace cs) with
    | error e => rfl
    | ok r => exact stop_bind_ok (x := closeWithin opened r.1) fun _ => rfl

theorem stop_skipWithin_of_readLeaf (hlist : ∀ rest, skipSpace cs ≠ '[' :: rest)
    (hobject : ∀ rest, skipSpace cs ≠ '\x7b' :: rest) {j : Json} {r : Shorter cs}
    (h : (readLeaf (skipSpace cs) >>= fun (j, q) =>
      pure (j, (Remainder.ofSkip rfl).transShorter q)) = .ok (j, r)) :
    stop (skipWithin opened cs) = stop (closeWithin opened r.1) := by
  obtain ⟨⟨k, q⟩, hq, h⟩ := bind_eq_ok_iff.1 h
  obtain ⟨rfl, rfl⟩ := Prod.mk.inj (Except.ok.inj h)
  rw [stop_skipWithin_leaf opened hlist hobject, skipLeaf_of_readLeaf hq]
  rfl

/-- White space in front does not matter. -/
theorem stop_skipWithin_skipSpace (cs : List Char) :
    stop (skipWithin opened (skipSpace cs)) = stop (skipWithin opened cs) := by
  have hspace : skipSpace (skipSpace cs) = skipSpace cs := List.dropWhile_idempotent ..
  by_cases hlist : ∃ rest, skipSpace cs = '[' :: rest
  · obtain ⟨rest, hcs⟩ := hlist
    rw [stop_skipWithin_list opened (hspace.trans hcs), stop_skipWithin_list opened hcs]
  · by_cases hobject : ∃ rest, skipSpace cs = '\x7b' :: rest
    · obtain ⟨rest, hcs⟩ := hobject
      rw [stop_skipWithin_object opened (hspace.trans hcs), stop_skipWithin_object opened hcs]
    · have hlist := not_exists.1 hlist
      have hobject := not_exists.1 hobject
      rw [stop_skipWithin_leaf opened hlist hobject, stop_skipWithin_leaf opened
        (by rwa [hspace]) (by rwa [hspace]), hspace]

theorem readSeparator_close {close : Char} {eof missing : Cause}
    (h : skipSpace cs = close :: rest) :
    readSeparator close eof missing cs = .ok (false, .ofSkip h) := by
  unfold readSeparator
  split
  next hnil => simp [hnil] at h
  next c rest' hcs =>
    obtain ⟨rfl, rfl⟩ := List.cons.inj (hcs.symm.trans h)
    rw [if_pos rfl]

theorem stop_closeWithin_list {more : Bool} {r : Shorter cs}
    (h : readSeparator ']' .eofList .expectedListCommaOrEnd cs = .ok (more, r)) :
    stop (closeWithin (.list :: opened) cs) =
      if more then stop (skipWithin (.list :: opened) r.1) else stop (closeWithin opened r.1) := by
  rw [closeWithin, h]
  cases more with
  | true => exact stop_bind_ok (x := skipWithin (.list :: opened) r.1) fun _ => rfl
  | false => exact stop_bind_ok (x := closeWithin opened r.1) fun _ => rfl

theorem stop_closeWithin_object {more : Bool} {r : Shorter cs}
    (h : readSeparator '\x7d' .eofObject .expectedObjectCommaOrEnd cs = .ok (more, r)) :
    stop (closeWithin (.object :: opened) cs) =
      if more then (stop (skipKey r.1)).bind fun s => stop (skipWithin (.object :: opened) s)
      else stop (closeWithin opened r.1) := by
  rw [closeWithin, h]
  cases more with
  | true =>
    change stop ((skipKey r.1).bind fun s => _) = _
    cases skipKey r.1 with
    | error e => rfl
    | ok s => exact stop_bind_ok (x := skipWithin (.object :: opened) s.1) fun _ => rfl
  | false => exact stop_bind_ok (x := closeWithin opened r.1) fun _ => rfl

end Within

/-! ### Values -/

section Nested

variable {item : (cs : List Char) → Reading Json cs} {cs rest : List Char}

/-- The scanner gets past what `item` reads. -/
def Skips (item : (cs : List Char) → Reading Json cs) : Prop :=
  ∀ cs j r, item cs = .ok (j, r) → ∀ opened,
    stop (skipWithin opened cs) = stop (closeWithin opened r.1)

theorem stop_skipWithin_of_readItems (hitem : Skips item) (opened : List Opened)
    {items : List Json} {r : Shorter cs} (h : readItems item cs = .ok (items, r)) :
    stop (skipWithin (.list :: opened) cs) = stop (closeWithin opened r.1) := by
  induction cs using readItems.induct generalizing items with
  | case1 cs ih =>
    rw [readItems] at h
    obtain ⟨⟨first, r₁⟩, hfirst, h⟩ := bind_eq_ok_iff.1 h
    obtain ⟨⟨more, r₂⟩, hseparator, h⟩ := bind_eq_ok_iff.1 h
    rw [hitem cs first r₁ hfirst, stop_closeWithin_list opened hseparator]
    cases more with
    | false =>
      obtain ⟨rfl, rfl⟩ := Prod.mk.inj (Except.ok.inj h)
      rfl
    | true =>
      simp only [if_true] at h ⊢
      split_ifs at h
      · exact absurd h (throw_bind_ne_ok _ _ _)
      · obtain ⟨⟨others, r₃⟩, hothers, h⟩ := bind_eq_ok_iff.1 h
        obtain ⟨rfl, rfl⟩ := Prod.mk.inj (Except.ok.inj h)
        exact ih r₁ r₂ hothers

theorem stop_skipWithin_of_readMembers (hitem : Skips item) (opened : List Opened)
    {key : String} {members : List (String × Json)} {r : Shorter cs}
    (h : readMembers item key cs = .ok (members, r)) :
    ∃ s, readColon cs = .ok s ∧
      stop (skipWithin (.object :: opened) s.1) = stop (closeWithin opened r.1) := by
  induction key, cs using readMembers.induct generalizing members with
  | case1 key cs ih =>
    rw [readMembers] at h
    obtain ⟨r₁, hcolon, h⟩ := bind_eq_ok_iff.1 h
    obtain ⟨⟨first, r₂⟩, hfirst, h⟩ := bind_eq_ok_iff.1 h
    obtain ⟨⟨more, r₃⟩, hseparator, h⟩ := bind_eq_ok_iff.1 h
    refine ⟨r₁, hcolon, ?_⟩
    rw [hitem r₁.1 first r₂ hfirst]
    have hclose := stop_closeWithin_object opened hseparator
    cases more with
    | false =>
      obtain ⟨rfl, rfl⟩ := Prod.mk.inj (Except.ok.inj h)
      exact hclose
    | true =>
      obtain ⟨⟨next, r₄⟩, hnext, h⟩ := bind_eq_ok_iff.1 h
      obtain ⟨⟨others, r₅⟩, hothers, h⟩ := bind_eq_ok_iff.1 h
      obtain ⟨rfl, rfl⟩ := Prod.mk.inj (Except.ok.inj h)
      rw [readNextKey] at hnext
      split_ifs at hnext
      obtain ⟨r₆, hcolon', hrest⟩ := ih r₁ r₂ r₃ next r₄ hothers
      have hkey : skipKey r₃.1 = .ok (r₄.trans r₆) := skipKey_of_readKey hnext hcolon'
      refine hclose.trans ?_
      rw [if_pos rfl, hkey]
      exact hrest

theorem stop_skipWithin_of_readArray (hitem : Skips item) (opened : List Opened)
    (hcs : skipSpace cs = '[' :: rest) {items : List Json} {r : Shorter rest}
    (h : readArray item rest = .ok (items, r)) :
    stop (skipWithin opened cs) = stop (closeWithin opened r.1) := by
  rw [stop_skipWithin_list opened hcs]
  unfold readArray at h
  split at h
  next => simp at h
  next c rest' hrest =>
    have hsees : sees ']' rest = true ↔ c = ']' := by simp [sees, hrest]
    split_ifs at h with hclose
    · subst hclose
      obtain ⟨rfl, rfl⟩ := Prod.mk.inj (Except.ok.inj h)
      rw [if_pos (hsees.2 rfl), stop_closeWithin_list opened (readSeparator_close hrest)]
      rfl
    · obtain ⟨⟨items', q⟩, hq, h⟩ := bind_eq_ok_iff.1 h
      obtain ⟨rfl, rfl⟩ := Prod.mk.inj (Except.ok.inj h)
      have hitems : stop (skipWithin (.list :: opened) rest) = stop (closeWithin opened q.1) := by
        rw [← stop_skipWithin_skipSpace, hrest]
        exact stop_skipWithin_of_readItems hitem opened hq
      rw [if_neg (mt hsees.1 hclose), if_neg (by simp [hrest]), hitems]
      rfl

theorem stop_skipWithin_of_readObject (hitem : Skips item) (opened : List Opened)
    (hcs : skipSpace cs = '\x7b' :: rest) {members : List (String × Json)} {r : Shorter rest}
    (h : readObject item rest = .ok (members, r)) :
    stop (skipWithin opened cs) = stop (closeWithin opened r.1) := by
  rw [stop_skipWithin_object opened hcs]
  unfold readObject at h
  split at h
  next => simp at h
  next c rest' hrest =>
    have hsees : sees '\x7d' rest = true ↔ c = '\x7d' := by simp [sees, hrest]
    split_ifs at h with hclose
    · subst hclose
      obtain ⟨rfl, rfl⟩ := Prod.mk.inj (Except.ok.inj h)
      rw [if_pos (hsees.2 rfl), stop_closeWithin_object opened (readSeparator_close hrest)]
      rfl
    · obtain ⟨⟨key, q⟩, hq, h⟩ := bind_eq_ok_iff.1 h
      obtain ⟨⟨members', t⟩, ht, h⟩ := bind_eq_ok_iff.1 h
      obtain ⟨rfl, rfl⟩ := Prod.mk.inj (Except.ok.inj h)
      obtain ⟨u, hcolon, hmembers⟩ := stop_skipWithin_of_readMembers hitem opened ht
      rw [if_neg (mt hsees.1 hclose), skipKey_of_readKey hq hcolon]
      exact hmembers

end Nested

theorem skips_readValue (depth : Nat) : Skips (readValue depth) := by
  induction depth with
  | zero =>
    intro cs j r h opened
    unfold readValue at h
    split at h
    next => simp at h
    next => simp at h
    next hlist hobject => exact stop_skipWithin_of_readLeaf opened hlist hobject h
  | succ depth ih =>
    intro cs j r h opened
    unfold readValue at h
    split at h
    next rest hcs =>
      obtain ⟨⟨items, q⟩, hq, h⟩ := bind_eq_ok_iff.1 h
      obtain ⟨rfl, rfl⟩ := Prod.mk.inj (Except.ok.inj h)
      exact stop_skipWithin_of_readArray ih opened hcs hq
    next rest hcs =>
      obtain ⟨⟨members, q⟩, hq, h⟩ := bind_eq_ok_iff.1 h
      obtain ⟨rfl, rfl⟩ := Prod.mk.inj (Except.ok.inj h)
      exact stop_skipWithin_of_readObject ih opened hcs hq
    next hlist hobject => exact stop_skipWithin_of_readLeaf opened hlist hobject h

/-- A value that can be read is passed over, and the text goes on behind it. -/
theorem skipValue_of_readValue {depth : Nat} {cs : List Char} {j : Json} {r : Shorter cs}
    (h : readValue depth cs = .ok (j, r)) : skipValue cs = .ok r := by
  have hstop := skips_readValue depth cs j r h []
  rw [closeWithin] at hstop
  obtain ⟨q, hq, hval⟩ := map_eq_ok_iff.1 hstop
  rw [skipValue, hq, Subtype.ext hval]

end RowSchema.Json
