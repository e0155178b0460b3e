import RowSchema.Proofs.Schema.Parse

/-!
# Schemas without records

Keys are all that a direction of parsing decides. Where no record is reachable, decoding and
encoding agree, and a value that is accepted stays as it is. The columns of a table are described
by such schemas, and so are the alternatives of a union that can be parsed there and back.

## Main definitions

* `Schema.holdsRecord` — whether a record is reachable

## Main results

* `Schema.parse_eq_of_holdsRecord_eq_false` — the direction makes no difference
* `Schema.eq_of_parse_of_holdsRecord_eq_false` — an accepted value stays as it is
-/

namespace RowSchema.Schema

mutual

/-- Whether a record is reachable through items, members and selected sides. -/
def holdsRecord : Schema → Bool
  | .atom _ => false
  | .array item => item.holdsRecord
  | .union members => anyHoldsRecord members
  | .struct _ => true
  | .column select _ _ => select.holdsRecord

/-- Whether one of the schemas holds a record. -/
def anyHoldsRecord : List Schema → Bool
  | [] => false
  | m :: ms => m.holdsRecord || anyHoldsRecord ms

end

theorem anyHoldsRecord_eq_false_iff {members : List Schema} :
    anyHoldsRecord members = false ↔ ∀ m ∈ members, m.holdsRecord = false := by
  induction members with
  | nil => simp [anyHoldsRecord]
  | cons m rest ih => simp [anyHoldsRecord, ih]

variable {s : Schema} {d : Direction} {j r : Json}

theorem parse_eq_of_holdsRecord_eq_false (h : s.holdsRecord = false) (d d' : Direction) :
    s.parse d = s.parse d' := by
  funext j
  induction s generalizing j with
  | atom a => rw [parse, parse]
  | array item ih =>
    rw [holdsRecord] at h
    have hitem : item.parse d = item.parse d' := funext fun j => ih h j
    cases j <;> simp [parse, hitem]
  | union members ih =>
    rw [holdsRecord, anyHoldsRecord_eq_false_iff] at h
    have hany : ∀ ms ⊆ members, parseAny d ms j = parseAny d' ms j := by
      intro ms
      induction ms with
      | nil => intro _; rfl
      | cons m rest ihrest =>
        intro hsub
        obtain ⟨hm, hrest⟩ := List.cons_subset.mp hsub
        rw [parseAny, parseAny, ih m hm (h m hm) j, ihrest hrest]
    rw [parse, parse, hany members (List.Subset.refl _)]
  | struct properties => simp [holdsRecord] at h
  | column select insert update ih =>
    rw [holdsRecord] at h
    rw [parse_column, parse_column, ih h j]

theorem eq_of_parse_of_holdsRecord_eq_false (hs : s.holdsRecord = false)
    (h : s.parse d j = .ok r) : j = r := by
  induction s generalizing j r with
  | atom a => exact (parse_atom_eq_ok_iff.mp h).2
  | array item ih =>
    rw [holdsRecord] at hs
    obtain ⟨items, results, rfl, rfl, hitems⟩ := parse_array_eq_ok_iff.mp h
    have hsame : List.Forall₂ (· = ·) items results := hitems.imp fun _ _ => ih hs
    rw [List.forall₂_eq_eq_eq] at hsame
    rw [hsame]
  | union members ih =>
    rw [holdsRecord, anyHoldsRecord_eq_false_iff] at hs
    obtain ⟨m, hm, hr⟩ := exists_mem_of_parse_union h
    exact ih m hm (hs m hm) hr
  | struct properties => simp [holdsRecord] at hs
  | column select insert update ih =>
    rw [holdsRecord] at hs
    rw [parse_column] at h
    exact ih hs h

end RowSchema.Schema
