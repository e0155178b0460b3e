import RowSchema.Proofs.Json.Skip
import RowSchema.Protocol.Request

/-!
# What a request says

A request is read from its line without the tree of the line. Where the line has a tree, the request
says what the tree says: its fields are the members under their keys, or the items in their order,
and a field that is missing is `null`.

## Main definitions

* `Protocol.fieldOf` — what a tree holds in the place of a field
* `Protocol.Reads` — a request that says what a tree holds
* `Protocol.Extends`, `Protocol.Tail` — a request and a tree that are read at the same time, one
  member or one item after another

## Main results

* `Protocol.reads_of_ofLine` — the fields of a request are those of the tree of its line
-/

namespace RowSchema.Protocol

open Json

/-- What a tree holds in the place of a field, which has a key in an object and a position in an
array. -/
def fieldOf (tree : Json) (key : String) (position : Nat) : Json :=
  match tree with
  | .array items => items[position]?.getD .null
  | tree => (tree.get? key).getD .null

/-- A request says what a tree holds. -/
structure Reads (request : Request) (tree : Json) : Prop where
  method : fieldOf tree "method" 0 = .string request.method
  params : request.params = (fieldOf tree "params" 1).value
  id : request.id = (fieldOf tree "id" 2).value

theorem syntactic_eq_ok_iff {α : Type} {x : Except Json.Fault α} {a : α} :
    syntactic x = .ok a ↔ x = .ok a := by
  cases x <;> simp [syntactic, Except.mapError]

/-- A step that two readers take together. -/
theorem shared_step {α β γ : Type} {x : Except Json.Fault α} {f : α → Except Fault β}
    {g : α → Except Json.Fault γ} {b : β} {c : γ} (h : (syntactic x >>= f) = .ok b)
    (hread : (x >>= g) = .ok c) : ∃ a, f a = .ok b ∧ g a = .ok c := by
  obtain ⟨a, ha, h⟩ := bind_eq_ok_iff.1 h
  obtain ⟨a', ha', hread⟩ := bind_eq_ok_iff.1 hread
  rw [syntactic_eq_ok_iff.1 ha] at ha'
  obtain rfl := Except.ok.inj ha'
  exact ⟨a, h, hread⟩

/-! ### Single fields -/

section Fields

variable {cs : List Char} {depth : Nat} {j : Json} {q : Shorter cs}

theorem exists_readLeaf {leaf : List Char} (hcs : skipSpace cs = leaf)
    (hlist : ∀ rest, leaf ≠ '[' :: rest) (hobject : ∀ rest, leaf ≠ '\x7b' :: rest)
    (h : readValue depth cs = .ok (j, q)) :
    ∃ t : Shorter leaf, readLeaf leaf = .ok (j, t) ∧ t.1 = q.1 := by
  subst hcs
  unfold readValue at h
  split at h
  next rest hcs => exact absurd hcs (hlist rest)
  next rest hcs => exact absurd hcs (hobject rest)
  next =>
    obtain ⟨⟨k, t⟩, ht, h⟩ := bind_eq_ok_iff.1 h
    obtain ⟨rfl, rfl⟩ := Prod.mk.inj (Except.ok.inj h)
    exact ⟨t, ht, rfl⟩

/-- White space in front does not matter. -/
theorem eq_of_readMethod {cs' : List Char} (hspace : skipSpace cs' = skipSpace cs) {name : String}
    {r : Shorter cs'} (h : readMethod cs' = .ok (name, r))
    (hread : readValue depth cs = .ok (j, q)) : j = .string name ∧ r.1 = q.1 := by
  unfold readMethod at h
  split at h
  next c rest hcs =>
    split_ifs at h with hquote
    subst hquote
    obtain ⟨⟨name', t⟩, ht, h⟩ := bind_eq_ok_iff.1 h
    obtain ⟨rfl, rfl⟩ := Prod.mk.inj (Except.ok.inj h)
    obtain ⟨u, hu, hval⟩ := exists_readLeaf (hspace.symm.trans hcs) (by simp) (by simp) hread
    rw [readLeaf, syntactic_eq_ok_iff.1 ht] at hu
    obtain ⟨rfl, rfl⟩ := Prod.mk.inj (Except.ok.inj hu)
    exact ⟨rfl, hval⟩
  next => simp at h

theorem eq_of_readAny {k : Json} {r : Shorter cs} (h : readAny cs = .ok (k, r))
    (hread : readValue (maxDepth - 1) cs = .ok (j, q)) : k = j.value ∧ r = q := by
  obtain ⟨⟨j', t⟩, ht, h⟩ := bind_eq_ok_iff.1 h
  obtain ⟨rfl, rfl⟩ := Prod.mk.inj (Except.ok.inj h)
  rw [syntactic_eq_ok_iff.1 ht] at hread
  obtain ⟨rfl, rfl⟩ := Prod.mk.inj (Except.ok.inj hread)
  exact ⟨rfl, rfl⟩

theorem eq_of_skipValue {r : Shorter cs} (h : syntactic (skipValue cs) = .ok r)
    (hread : readValue depth cs = .ok (j, q)) : r = q := by
  rw [skipValue_of_readValue hread] at h
  exact (Except.ok.inj h).symm

end Fields

/-! ### Objects -/

/-- A draft to which members have been added says what they say, under the keys of the fields. -/
structure Extends (d : Draft) (members : List (String × Json)) (d' : Draft) : Prop where
  method : d'.method.map .string = (d.method.map .string).or (Dict.get? members "method")
  params : d'.params = d.params.or ((Dict.get? members "params").map Json.value)
  id : d'.id = d.id.or ((Dict.get? members "id").map Json.value)

theorem get?_cons_or (first : String × Json) (others : List (String × Json)) (key : String) :
    Dict.get? (first :: others) key = (Dict.get? [first] key).or (Dict.get? others key) := by
  simp only [Dict.get?]
  split <;> simp

theorem Extends.cons {d d' d'' : Draft} {first : String × Json} {others : List (String × Json)}
    (h : Extends d [first] d') (h' : Extends d' others d'') : Extends d (first :: others) d'' where
  method := by rw [get?_cons_or, ← Option.or_assoc, ← h.method, h'.method]
  params := by rw [get?_cons_or, Option.map_or, ← Option.or_assoc, ← h.params, h'.params]
  id := by rw [get?_cons_or, Option.map_or, ← Option.or_assoc, ← h.id, h'.id]

theorem extends_of_readField {d d' : Draft} {key : String} {cs : List Char} {r q : Shorter cs}
    {j : Json} (hnew : d.has key = false) (h : readField d key cs = .ok (d', r))
    (hread : readValue (maxDepth - 1) cs = .ok (j, q)) : Extends d [(key, j)] d' ∧ r = q := by
  unfold readField at h
  split at h
  next =>
    obtain ⟨⟨name, t⟩, ht, h⟩ := bind_eq_ok_iff.1 h
    obtain ⟨rfl, rfl⟩ := Prod.mk.inj (Except.ok.inj h)
    obtain ⟨rfl, hval⟩ := eq_of_readMethod rfl ht hread
    have hmethod : d.method = none := by simpa [Draft.has] using hnew
    exact ⟨⟨by simp [hmethod, Dict.get?], by simp [Dict.get?], by simp [Dict.get?]⟩,
      Subtype.ext hval⟩
  next =>
    obtain ⟨⟨k, t⟩, ht, h⟩ := bind_eq_ok_iff.1 h
    obtain ⟨rfl, rfl⟩ := Prod.mk.inj (Except.ok.inj h)
    obtain ⟨rfl, rfl⟩ := eq_of_readAny ht hread
    have hparams : d.params = none := by simpa [Draft.has] using hnew
    exact ⟨⟨by simp [Dict.get?], by simp [hparams, Dict.get?], by simp [Dict.get?]⟩, rfl⟩
  next =>
    obtain ⟨⟨k, t⟩, ht, h⟩ := bind_eq_ok_iff.1 h
    obtain ⟨rfl, rfl⟩ := Prod.mk.inj (Except.ok.inj h)
    obtain ⟨rfl, rfl⟩ := eq_of_readAny ht hread
    have hid : d.id = none := by simpa [Draft.has] using hnew
    exact ⟨⟨by simp [Dict.get?], by simp [Dict.get?], by simp [hid, Dict.get?]⟩, rfl⟩
  next hmethod hparams hid =>
    obtain ⟨t, ht, h⟩ := bind_eq_ok_iff.1 h
    obtain ⟨rfl, rfl⟩ := Prod.mk.inj (Except.ok.inj h)
    obtain rfl := eq_of_skipValue ht hread
    have hmethod : key ≠ "method" := hmethod
    have hparams : key ≠ "params" := hparams
    have hid : key ≠ "id" := hid
    exact ⟨⟨by simp [hmethod, Dict.get?], by simp [hparams, Dict.get?],
      by simp [hid, Dict.get?]⟩, rfl⟩

/-- Members are read into a draft as they are read into a tree. -/
theorem extends_of_readMembers {d d' : Draft} {key : String} {cs : List Char} {r q : Shorter cs}
    {members : List (String × Json)} (h : readMembers d key cs = .ok (d', r))
    (hread : Json.readMembers (readValue (maxDepth - 1)) key cs = .ok (members, q)) :
    Extends d members d' := by
  induction d, key, cs using readMembers.induct generalizing members with
  | case1 d key cs hdup =>
    rw [readMembers, if_pos hdup] at h
    exact absurd h (throw_bind_ne_ok _ _ _)
  | case2 d key cs hnew ih =>
    rw [readMembers, if_neg hnew] at h
    rw [Json.readMembers] at hread
    -- Both readers find the same colon, the same value, the same separator and the same next key.
    obtain ⟨r₁, h, hread⟩ := shared_step h hread
    obtain ⟨⟨first, q₂⟩, hfirst, hread⟩ := bind_eq_ok_iff.1 hread
    obtain ⟨⟨d₁, r₂⟩, hfield, h⟩ := bind_eq_ok_iff.1 h
    obtain ⟨hext, rfl⟩ := extends_of_readField (by simpa using hnew) hfield hfirst
    obtain ⟨⟨more, r₃⟩, h, hread⟩ := shared_step h hread
    cases more with
    | false =>
      obtain ⟨rfl, rfl⟩ := Prod.mk.inj (Except.ok.inj h)
      obtain ⟨rfl, rfl⟩ := Prod.mk.inj (Except.ok.inj hread)
      exact hext
    | true =>
      obtain ⟨⟨next, r₄⟩, h, hread⟩ := shared_step h hread
      obtain ⟨⟨d₂, r₅⟩, hrest, h⟩ := bind_eq_ok_iff.1 h
      obtain ⟨⟨others, q₅⟩, hothers, hread⟩ := bind_eq_ok_iff.1 hread
      obtain ⟨rfl, rfl⟩ := Prod.mk.inj (Except.ok.inj h)
      obtain ⟨rfl, rfl⟩ := Prod.mk.inj (Except.ok.inj hread)
      exact hext.cons (ih r₁ d₁ r₂ r₃ next r₄ hrest hothers)

theorem reads_of_request {d : Draft} {members : List (String × Json)} {cs : List Char}
    {request : Request} (hext : Extends {} members d) (h : d.request cs = .ok request) :
    Reads request (.object members) := by
  have hvalue : ∀ o : Option Json, (o.map Json.value).getD .null = (o.getD .null).value := by
    rintro (_ | j) <;> rfl
  unfold Draft.request at h
  split at h
  next method hmethod =>
    obtain rfl := Except.ok.inj h
    have hfield := hext.method
    rw [hmethod] at hfield
    refine ⟨?_, ?_, ?_⟩
    · simpa [fieldOf, Json.get?, Json.object?] using congrArg (·.getD .null) hfield.symm
    · simpa [fieldOf, Json.get?, Json.object?, hvalue] using congrArg (·.getD .null) hext.params
    · simpa [fieldOf, Json.get?, Json.object?, hvalue] using congrArg (·.getD .null) hext.id
  next => simp at h

theorem reads_of_readObject {cs : List Char} {request : Request} {r q : Shorter cs}
    {members : List (String × Json)} (h : readObject cs = .ok (request, r))
    (hread : Json.readObject (readValue (maxDepth - 1)) cs = .ok (members, q)) :
    Reads request (.object members) := by
  unfold readObject at h
  unfold Json.readObject at hread
  split at h
  next => simp at h
  next c rest hcs =>
    split at hread
    next => simp at hread
    next c' rest' hcs' =>
      obtain ⟨rfl, rfl⟩ := List.cons.inj (hcs.symm.trans hcs')
      split_ifs at h hread
      · obtain ⟨request', hrequest, h⟩ := bind_eq_ok_iff.1 h
        simp [Draft.request] at hrequest
      · obtain ⟨⟨key, t⟩, h, hread⟩ := shared_step h hread
        obtain ⟨⟨d, u⟩, hd, h⟩ := bind_eq_ok_iff.1 h
        obtain ⟨⟨members', v⟩, hmembers, hread⟩ := bind_eq_ok_iff.1 hread
        obtain ⟨request', hrequest, h⟩ := bind_eq_ok_iff.1 h
        obtain ⟨rfl, rfl⟩ := Prod.mk.inj (Except.ok.inj h)
        obtain ⟨rfl, rfl⟩ := Prod.mk.inj (Except.ok.inj hread)
        exact reads_of_request (extends_of_readMembers hd hmembers) hrequest

/-! ### Arrays -/

/-- What follows an item of an array: items behind commas, up to the closing bracket. -/
inductive Tail (item : (cs : List Char) → Json.Reading Json cs) : List Char → List Json → Prop
  | close {cs rest : List Char} (hcs : skipSpace cs = ']' :: rest) : Tail item cs []
  | more {cs rest : List Char} {j : Json} {r : Shorter rest} {items : List Json}
      (hcs : skipSpace cs = ',' :: rest) (hj : item rest = .ok (j, r))
      (others : Tail item r.1 items) : Tail item cs (j :: items)

theorem readSeparator_cases {eof missing : Json.Cause} {cs : List Char} {more : Bool}
    {r : Shorter cs} (h : readSeparator ']' eof missing cs = .ok (more, r)) :
    skipSpace cs = (if more then ',' else ']') :: r.1 := by
  unfold readSeparator at h
  split at h
  next => simp at h
  next c rest hcs =>
    split_ifs at h with hclose hcomma
    · obtain ⟨rfl, rfl⟩ := Prod.mk.inj (Except.ok.inj h)
      subst hclose
      exact hcs
    · obtain ⟨rfl, rfl⟩ := Prod.mk.inj (Except.ok.inj h)
      subst hcomma
      exact hcs

theorem tail_of_readItems {item : (cs : List Char) → Json.Reading Json cs} {cs : List Char}
    {items : List Json} {r : Shorter cs} (h : readItems item cs = .ok (items, r)) :
    ∃ j q others, item cs = .ok (j, q) ∧ Tail item q.1 others ∧ items = j :: others := by
  induction cs using readItems.induct generalizing items with
  | case1 cs ih =>
    rw [readItems] at h
    obtain ⟨⟨first, r₁⟩, hfirst, h⟩ := bind_eq_ok_iff.1 h
    obtain ⟨⟨more, r₂⟩, hseparator, h⟩ := bind_eq_ok_iff.1 h
    have hcs := readSeparator_cases hseparator
    cases more with
    | false =>
      obtain ⟨rfl, rfl⟩ := Prod.mk.inj (Except.ok.inj h)
      exact ⟨first, r₁, [], hfirst, .close hcs, rfl⟩
    | true =>
      simp only [if_true] at h
      split_ifs at h
      · exact absurd h (throw_bind_ne_ok _ _ _)
      · obtain ⟨⟨others, r₃⟩, hothers, h⟩ := bind_eq_ok_iff.1 h
        obtain ⟨rfl, rfl⟩ := Prod.mk.inj (Except.ok.inj h)
        obtain ⟨j, q, rest, hj, htail, rfl⟩ := ih r₁ r₂ hothers
        exact ⟨first, r₁, j :: rest, hfirst, .more hcs hj htail, rfl⟩

/-- An item is taken from the rest of an array, `null` if there is none. -/
theorem tail_of_readItem {cs : List Char} {items : List Json} {k : Json} {r : Remainder cs}
    (htail : Tail (readValue (maxDepth - 1)) cs items) (h : readItem cs = .ok (k, r)) :
    k = (items.head?.getD .null).value ∧ Tail (readValue (maxDepth - 1)) r.1 items.tail := by
  unfold readItem at h
  split at h
  next => simp at h
  next c rest hcs =>
    cases htail with
    | close hclose =>
      obtain ⟨rfl, -⟩ := List.cons.inj (hcs.symm.trans hclose)
      obtain ⟨rfl, rfl⟩ := Prod.mk.inj (Except.ok.inj h)
      exact ⟨rfl, .close hclose⟩
    | more hcomma hj others =>
      obtain ⟨rfl, rfl⟩ := List.cons.inj (hcs.symm.trans hcomma)
      simp only [if_neg (show ¬ ',' = ']' by decide), if_true] at h
      split_ifs at h
      obtain ⟨⟨k', t⟩, ht, h⟩ := bind_eq_ok_iff.1 h
      obtain ⟨rfl, rfl⟩ := Prod.mk.inj (Except.ok.inj h)
      obtain ⟨rfl, rfl⟩ := eq_of_readAny ht hj
      exact ⟨rfl, others⟩

theorem reads_of_readArray {cs : List Char} {request : Request} {r q : Shorter cs}
    {items : List Json} (h : readArray cs = .ok (request, r))
    (hread : Json.readArray (readValue (maxDepth - 1)) cs = .ok (items, q)) :
    Reads request (.array items) := by
  unfold readArray at h
  unfold Json.readArray at hread
  split at hread
  next => simp at hread
  next c rest hcs =>
    simp only [hcs] at h
    split_ifs at h hread
    obtain ⟨⟨items', t⟩, hitems, hread⟩ := bind_eq_ok_iff.1 hread
    obtain ⟨rfl, rfl⟩ := Prod.mk.inj (Except.ok.inj hread)
    obtain ⟨first, u, others, hfirst, htail, rfl⟩ := tail_of_readItems hitems
    obtain ⟨⟨method, r₁⟩, hmethod, h⟩ := bind_eq_ok_iff.1 h
    obtain ⟨⟨params, r₂⟩, hparams, h⟩ := bind_eq_ok_iff.1 h
    obtain ⟨⟨id, r₃⟩, hid, h⟩ := bind_eq_ok_iff.1 h
    obtain ⟨r₄, -, h⟩ := bind_eq_ok_iff.1 h
    obtain ⟨rfl, rfl⟩ := Prod.mk.inj (Except.ok.inj h)
    have hspace : skipSpace cs = skipSpace (c :: rest) := by
      rw [← hcs]
      exact (List.dropWhile_idempotent ..).symm
    obtain ⟨rfl, hval⟩ := eq_of_readMethod hspace hmethod hfirst
    rw [← hval] at htail
    obtain ⟨rfl, htail⟩ := tail_of_readItem htail hparams
    obtain ⟨rfl, -⟩ := tail_of_readItem htail hid
    exact ⟨rfl, by cases others <;> rfl, by rcases others with _ | ⟨_, _ | _⟩ <;> rfl⟩

/-! ### Lines -/

/-- The fields of a request are those of the tree of its line. -/
theorem reads_of_ofLine {line : List Char} {request : Request} {tree : Json}
    (h : Request.ofLine line = .ok request) (hread : Json.read line = .ok tree) :
    Reads request tree := by
  obtain ⟨⟨request', r⟩, hrequest, h⟩ := bind_eq_ok_iff.1 h
  obtain ⟨-, -, h⟩ := bind_eq_ok_iff.1 h
  obtain rfl := Except.ok.inj h
  obtain ⟨⟨tree', q⟩, htree, hread⟩ := bind_eq_ok_iff.1 hread
  obtain ⟨-, -, hread⟩ := bind_eq_ok_iff.1 hread
  obtain rfl := Except.ok.inj hread
  rw [show maxDepth = maxDepth - 1 + 1 from rfl] at htree
  unfold readRequest at hrequest
  unfold readValue at htree
  split at hrequest
  next rest hcs =>
    split at htree
    next rest' hcs' =>
      obtain ⟨-, rfl⟩ := List.cons.inj (hcs.symm.trans hcs')
      obtain ⟨⟨items, t⟩, hitems, htree⟩ := bind_eq_ok_iff.1 htree
      obtain ⟨⟨request', u⟩, hrequest', hrequest⟩ := bind_eq_ok_iff.1 hrequest
      obtain ⟨rfl, rfl⟩ := Prod.mk.inj (Except.ok.inj htree)
      obtain ⟨rfl, rfl⟩ := Prod.mk.inj (Except.ok.inj hrequest)
      exact reads_of_readArray hrequest' hitems
    next rest' hcs' => simp [hcs] at hcs'
    next hlist _ => exact absurd hcs (hlist rest)
  next rest hcs =>
    split at htree
    next rest' hcs' => simp [hcs] at hcs'
    next rest' hcs' =>
      obtain ⟨-, rfl⟩ := List.cons.inj (hcs.symm.trans hcs')
      obtain ⟨⟨members, t⟩, hmembers, htree⟩ := bind_eq_ok_iff.1 htree
      obtain ⟨⟨request', u⟩, hrequest', hrequest⟩ := bind_eq_ok_iff.1 hrequest
      obtain ⟨rfl, rfl⟩ := Prod.mk.inj (Except.ok.inj htree)
      obtain ⟨rfl, rfl⟩ := Prod.mk.inj (Except.ok.inj hrequest)
      exact reads_of_readObject hrequest' hmembers
    next _ hobject => exact absurd hcs (hobject rest)
  next => simp at hrequest

end RowSchema.Protocol
