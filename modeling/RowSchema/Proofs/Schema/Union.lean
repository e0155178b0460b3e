import RowSchema.Proofs.Except
import RowSchema.Proofs.Schema.Parse
import RowSchema.Schema.Union

/-!
# What a union accepts

Building a union opens the unions among its members, drops `never` and repetitions, and lets short
lists collapse. Parsing takes the first member that accepts the value, so each of these steps could
let another member win: members are moved to the front of others or vanish, and two members that
accept one value may parse it differently.

None of them does. All that parsing sees of a list of schemas is `parseAny`, the result of the first
member that accepts the value, and every step keeps it. A member may be dropped if it accepts
nothing, or if the same member has been tried before it without success.

## Main results

* `Schema.parseAny_filter` — members that reject the value may be dropped
* `Schema.parseAny_flatMap_alternatives`, `parseAny_distinct`, `toOption_parse_collapse` — the steps
* `Schema.parse_unionOf_eq_ok_iff` — a union is parsed by the first schema that it was built of and
  that accepts the value
-/

namespace RowSchema.Schema

variable {d : Direction} {j r : Json} {ms : List Schema}

theorem toOption_parse_union (d : Direction) (ms : List Schema) (j : Json) :
    ((Schema.union ms).parse d j).toOption = parseAny d ms j := by
  rw [parse]
  cases parseAny d ms j <;> rfl

theorem toOption_parse_eq_none_iff {m : Schema} :
    (m.parse d j).toOption = none ↔ ∀ r, m.parse d j ≠ .ok r := by
  cases m.parse d j <;> simp [Except.toOption]

/-! ### The first member that accepts -/

theorem parseAny_cons (d : Direction) (m : Schema) (ms : List Schema) (j : Json) :
    parseAny d (m :: ms) j = ((m.parse d j).toOption).or (parseAny d ms j) := by
  rw [parseAny]
  cases m.parse d j <;> rfl

theorem parseAny_singleton (d : Direction) (m : Schema) (j : Json) :
    parseAny d [m] j = (m.parse d j).toOption := by
  rw [parseAny_cons, parseAny, Option.or_none]

theorem parseAny_append (d : Direction) (ms ns : List Schema) (j : Json) :
    parseAny d (ms ++ ns) j = (parseAny d ms j).or (parseAny d ns j) := by
  rw [parseAny_eq_findSome?, parseAny_eq_findSome?, parseAny_eq_findSome?, List.findSome?_append]

theorem parseAny_eq_some_iff :
    parseAny d ms j = some r ↔ ∃ before m after, ms = before ++ m :: after ∧
      (∀ m' ∈ before, ∀ r', m'.parse d j ≠ .ok r') ∧ m.parse d j = .ok r := by
  rw [parseAny_eq_findSome?, List.findSome?_eq_some_iff]
  simp only [toOption_eq_some_iff, toOption_parse_eq_none_iff]
  constructor
  · rintro ⟨before, m, after, hms, hm, hbefore⟩
    exact ⟨before, m, after, hms, hbefore, hm⟩
  · rintro ⟨before, m, after, hms, hbefore, hm⟩
    exact ⟨before, m, after, hms, hm, hbefore⟩

theorem exists_parseAny_eq_some_iff :
    (∃ r, parseAny d ms j = some r) ↔ ∃ m ∈ ms, ∃ r, m.parse d j = .ok r := by
  rw [← Option.isSome_iff_exists, parseAny_eq_findSome?, List.findSome?_isSome_iff]
  simp only [Option.isSome_iff_exists, toOption_eq_some_iff]

/-- Members that reject the value may be dropped. -/
theorem parseAny_filter {keep : Schema → Bool}
    (h : ∀ m, keep m = false → (m.parse d j).toOption = none) (ms : List Schema) :
    parseAny d (ms.filter keep) j = parseAny d ms j := by
  induction ms with
  | nil => rfl
  | cons m ms ih =>
    cases hm : keep m with
    | true => rw [List.filter_cons_of_pos hm, parseAny_cons, parseAny_cons, ih]
    | false =>
      rw [List.filter_cons_of_neg (by simp [hm]), parseAny_cons, h m hm, Option.none_or, ih]

/-! ### The steps of building a union -/

/-- Opening a schema does not change what is parsed, because only a union is opened. -/
theorem parseAny_alternatives (d : Direction) (m : Schema) (j : Json) :
    parseAny d (alternatives m) j = (m.parse d j).toOption := by
  cases m with
  | union members => exact (toOption_parse_union d members j).symm
  | _ => exact parseAny_singleton d _ j

theorem parseAny_flatMap_alternatives (d : Direction) (ms : List Schema) (j : Json) :
    parseAny d (ms.flatMap alternatives) j = parseAny d ms j := by
  induction ms with
  | nil => rfl
  | cons m ms ih =>
    rw [List.flatMap_cons, parseAny_append, parseAny_alternatives, ih, parseAny_cons]

theorem parseAny_filter_isNever (d : Direction) (ms : List Schema) (j : Json) :
    parseAny d (ms.filter (!·.isNever)) j = parseAny d ms j := by
  refine parseAny_filter (fun m hm => ?_) ms
  obtain rfl : m = .never := isNever_iff.mp (by simpa using hm)
  rfl

/-- A repetition is tried only after the first copy has failed, so it may be dropped. -/
theorem parseAny_distinct (d : Direction) (ms : List Schema) (j : Json) :
    parseAny d (distinct ms) j = parseAny d ms j := by
  induction ms with
  | nil => rfl
  | cons m ms ih =>
    rw [distinct, parseAny_cons, parseAny_cons]
    cases hm : (m.parse d j).toOption with
    | some r => rfl
    | none =>
      -- No copy of `m` accepts the value, since `m` itself does not.
      have hrest : parseAny d ((distinct ms).filter (· ≠ m)) j = parseAny d (distinct ms) j := by
        refine parseAny_filter (fun m' hm' => ?_) (distinct ms)
        obtain rfl : m' = m := by simpa using hm'
        exact hm
      rw [Option.none_or, Option.none_or, hrest, ih]

theorem toOption_parse_collapse (d : Direction) (ms : List Schema) (j : Json) :
    ((collapse ms).parse d j).toOption = parseAny d ms j := by
  match ms with
  | [] => rfl
  | [m] => exact (parseAny_singleton d m j).symm
  | m :: m' :: ms => exact toOption_parse_union d (m :: m' :: ms) j

theorem toOption_parse_unionOf (d : Direction) (ms : List Schema) (j : Json) :
    ((unionOf ms).parse d j).toOption = parseAny d ms j := by
  calc ((unionOf ms).parse d j).toOption
      = parseAny d (distinct ((ms.flatMap alternatives).filter (!·.isNever))) j :=
        toOption_parse_collapse d _ j
    _ = parseAny d ((ms.flatMap alternatives).filter (!·.isNever)) j := parseAny_distinct d _ j
    _ = parseAny d (ms.flatMap alternatives) j := parseAny_filter_isNever d _ j
    _ = parseAny d ms j := parseAny_flatMap_alternatives d ms j

/-- **Building a union preserves meaning.** A union accepts what one of the schemas accepts that it
was built of, and parses it as the first of them does. The same holds of each step on its own:
opening unions, dropping `never`, dropping repetitions, and letting short lists collapse. -/
theorem parse_unionOf_eq_ok_iff (d : Direction) (ms : List Schema) (j : Json) :
    ((∃ r, (unionOf ms).parse d j = .ok r) ↔ ∃ m ∈ ms, ∃ r, m.parse d j = .ok r) ∧
      (∀ r, (unionOf ms).parse d j = .ok r ↔ ∃ before m after, ms = before ++ m :: after ∧
        (∀ m' ∈ before, ∀ r', m'.parse d j ≠ .ok r') ∧ m.parse d j = .ok r) ∧
      parseAny d (ms.flatMap alternatives) j = parseAny d ms j ∧
      parseAny d (ms.filter (!·.isNever)) j = parseAny d ms j ∧
      parseAny d (distinct ms) j = parseAny d ms j ∧
      ((collapse ms).parse d j).toOption = parseAny d ms j := by
  have hok : ∀ r, (unionOf ms).parse d j = .ok r ↔ parseAny d ms j = some r := fun r => by
    rw [← toOption_eq_some_iff, toOption_parse_unionOf]
  refine ⟨?_, fun r => (hok r).trans parseAny_eq_some_iff, parseAny_flatMap_alternatives d ms j,
    parseAny_filter_isNever d ms j, parseAny_distinct d ms j, toOption_parse_collapse d ms j⟩
  rw [← exists_parseAny_eq_some_iff]
  exact exists_congr hok

/-- Two records accept the value. The one that comes first drops a key, whatever else is in the
list. -/
example :
    (unionOf [.never, .union [.struct [.required "a" .unknown], .never],
        .struct [.required "a" .unknown, .required "b" .unknown],
        .struct [.required "a" .unknown]]).decode (.object [("a", .int 1), ("b", .int 2)]) =
      .ok (.object [("a", .int 1)]) := by
  decide

end RowSchema.Schema
