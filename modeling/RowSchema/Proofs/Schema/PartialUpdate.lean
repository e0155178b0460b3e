import Mathlib.Data.Set.Insert
import RowSchema.Proofs.Schema.Union
import RowSchema.Proofs.Schema.WriteSafety

/-!
# Partial updates

What may be changed in a row may be given in part: each property of the view is optional and has
`undefined` beside its type. So an accepted change stays accepted when some of its members are taken
out and others are set to `null`, and the properties do not influence each other. Those left alone
are written as before, and those taken out are not written. A `null` is written where the type has a
place for it; elsewhere it says that the property is absent.

The last point needs both directions of what is known of `null`. A type that offers `undefined`
accepts it, however it is nested, and a record then leaves the property out. If `null` or any value
is offered as well, the property is read, and what is read of a `null` is `null`.

## Main definitions

* `Schema.Thinned` — a record without some members, and with `null` for some others
* `Schema.ThinnedEntry` — what becomes of an entry of the result

## Main results

* `Schema.parse_null_eq_ok_iff` — which schemas accept `null`
* `Schema.Thinned.exists_readField` — a single property of a thinned record
* `Schema.encode_updatable_thinned` — accepted changes may be thinned
-/

namespace RowSchema.Schema

variable {d : Direction} {s : Schema} {q : Property Schema} {ps : List (Property Schema)}
  {fields v w : Dict Json} {removed nulled : Set String} {before : Option Json}

/-! ### Reading `null` -/

theorem parse_null_of_offers {a : Atom} (ha : a.accepts .null) (h : s.Offers a) :
    s.parse d .null = .ok .null := by
  induction h with
  | atom => exact parse_atom_eq_ok_iff.mpr ⟨ha, rfl⟩
  | @member members m hm h ih =>
    -- Another member may come first, but it parses `null` to `null` too.
    obtain ⟨r, hr⟩ := exists_parseAny_eq_some_iff.mpr ⟨m, hm, .null, ih⟩
    have hparse : (Schema.union members).parse d .null = .ok r := by
      rw [← toOption_eq_some_iff, toOption_parse_union, hr]
    have hnull : r.isNull = true := isNull_eq_of_parse hparse
    rw [hparse, Json.isNull_iff.mp hnull]
  | select h ih => rwa [parse_column]

/-- **Which schemas accept `null`.** -/
theorem parse_null_eq_ok_iff :
    s.parse d .null = .ok .null ↔ s.Offers .undefined ∨ s.Offers .null ∨ s.Offers .unknown := by
  refine ⟨exists_offers_of_parse_null, ?_⟩
  rintro (h | h | h) <;> exact parse_null_of_offers rfl h

/-- A `null` is read where there is a place for it. -/
theorem readField_null_of_offers (hget : fields.get? (d.readKey q) = some .null)
    (h : q.schema.Offers .null ∨ q.schema.Offers .unknown) :
    readField d q fields = .ok (some .null) := by
  have hkept : ¬ (Json.null.isNull ∧ q.schema.omitsNull) := fun homit =>
    (omitsNull_iff.mp homit.2).2 h
  exact (readField_of_present_eq_ok_iff hget hkept).mpr
    ⟨.null, parse_null_eq_ok_iff.mpr (Or.inr h), rfl⟩

/-- Elsewhere a `null` says that the property is absent. -/
theorem readField_null_of_not_offers (hget : fields.get? (d.readKey q) = some .null)
    (hundefined : q.schema.Offers .undefined)
    (h : ¬ (q.schema.Offers .null ∨ q.schema.Offers .unknown)) :
    readField d q fields = .ok none :=
  readField_of_omitted hget ⟨rfl, omitsNull_iff.mpr ⟨hundefined, h⟩⟩

/-! ### What may be changed -/

theorem offers_undefined_orUndefined (s : Schema) : s.orUndefined.Offers .undefined := by
  rcases orUndefined_eq_or s with h | ⟨members, h, hmem⟩
  · rw [h]
    exact .atom
  · rw [h]
    exact .member hmem .atom

/-- Each property of the view may be left out, and `null` may stand for its absence. -/
theorem of_mem_viewProperties_update (h : q ∈ viewProperties .update ps) :
    q.optional = true ∧ q.schema.Offers .undefined := by
  obtain ⟨p, -, rfl⟩ := List.mem_map.mp h
  exact ⟨rfl, offers_undefined_orUndefined p.schema⟩

/-! ### Thinning a record -/

/-- `w` is `v` without its members under the keys in `removed`, and with `null` under those in
`nulled`. No key is in both, then. -/
structure Thinned (removed nulled : Set String) (v w : Dict Json) : Prop where
  /-- A removed key is not there. -/
  get?_of_removed : ∀ key ∈ removed, w.get? key = none
  /-- A nulled key is there, whether it was before or not. -/
  get?_of_nulled : ∀ key ∈ nulled, w.get? key = some .null
  /-- Any other key is as it was. -/
  get?_of_untouched : ∀ key, key ∉ removed → key ∉ nulled → w.get? key = v.get? key

/-- What a property writes of the thinned record, if it writes `before` of the whole one. -/
inductive ThinnedEntry (removed nulled : Set String) (q : Property Schema) (before : Option Json) :
    Option Json → Prop where
  | removed (hname : q.name ∈ removed) : ThinnedEntry removed nulled q before none
  /-- A `null` is written where the type has a place for it. -/
  | kept (hname : q.name ∈ nulled) (hoffers : q.schema.Offers .null ∨ q.schema.Offers .unknown) :
      ThinnedEntry removed nulled q before (some .null)
  /-- Elsewhere it is not. -/
  | omitted (hname : q.name ∈ nulled)
      (hoffers : ¬ (q.schema.Offers .null ∨ q.schema.Offers .unknown)) :
      ThinnedEntry removed nulled q before none
  | untouched (hremoved : q.name ∉ removed) (hnulled : q.name ∉ nulled) :
      ThinnedEntry removed nulled q before before

/-- Properties do not influence each other, so a single one is all there is to see. -/
theorem Thinned.exists_readField (h : Thinned removed nulled v w) (hoptional : q.optional = true)
    (hundefined : q.schema.Offers .undefined) (hread : readField .encode q v = .ok before) :
    ∃ after, readField .encode q w = .ok after ∧ ThinnedEntry removed nulled q before after := by
  by_cases hremoved : q.name ∈ removed
  · have habsent : w.get? q.name = none := h.get?_of_removed _ hremoved
    refine ⟨none, ?_, .removed hremoved⟩
    rw [readField_of_absent habsent, if_pos hoptional]
  by_cases hnulled : q.name ∈ nulled
  · have hnull : w.get? q.name = some .null := h.get?_of_nulled _ hnulled
    by_cases hoffers : q.schema.Offers .null ∨ q.schema.Offers .unknown
    · exact ⟨some .null, readField_null_of_offers hnull hoffers, .kept hnulled hoffers⟩
    · exact ⟨none, readField_null_of_not_offers hnull hundefined hoffers, .omitted hnulled hoffers⟩
  · have hsame : w.get? q.name = v.get? q.name := h.get?_of_untouched _ hremoved hnulled
    refine ⟨before, ?_, .untouched hremoved hnulled⟩
    rw [← hread, readField, readField, Direction.readKey, hsame]

/-- **Partial updates.** The empty change is accepted and writes nothing. Of an accepted change any
members may be removed and any others set to `null`: it stays accepted, and each property is written
as what became of it says. Nothing else is written. -/
theorem encode_updatable_thinned (hkeys : (ps.map Property.storedKey).Nodup) :
    (Schema.struct ps).updatable.encode (.object []) = .ok (.object []) ∧
      ∃ qs, (Schema.struct ps).updatable = .struct qs ∧
        ∀ (v : Dict Json) (e : Json), (Schema.struct ps).updatable.encode (.object v) = .ok e →
          ∃ entries : Dict Json, e = .object entries ∧
            ∀ (removed nulled : Set String) (w : Dict Json), Thinned removed nulled v w →
              ∃ out : Dict Json,
                (Schema.struct ps).updatable.encode (.object w) = .ok (.object out) ∧
                  (∀ q ∈ qs, ThinnedEntry removed nulled q (entries.get? q.storedKey)
                    (out.get? q.storedKey)) ∧
                  ∀ key, key ∉ qs.map Property.storedKey → out.get? key = none := by
  have hview : (Schema.struct ps).updatable = .struct (viewProperties .update ps) :=
    viewed_struct .update ps
  have hwritten : ((viewProperties .update ps).map Direction.encode.writeKey).Nodup :=
    (storedKeys_viewProperties_sublist .update ps).nodup hkeys
  rw [hview]
  refine ⟨?_, viewProperties .update ps, rfl, fun v e h => ?_⟩
  · refine (parse_struct_eq_ok_iff hwritten).mpr ⟨Dict.ordered_nil, fun q hq => ?_, fun _ _ => rfl⟩
    rw [readField_of_absent rfl, if_pos (of_mem_viewProperties_update hq).1]
    rfl
  · obtain ⟨_, entries, hv, rfl⟩ := exists_object_of_parse_struct h
    cases hv
    obtain ⟨-, hread, -⟩ := (parse_struct_eq_ok_iff hwritten).mp h
    refine ⟨entries, rfl, fun removed nulled w hthinned => ?_⟩
    have hentry : ∀ q ∈ viewProperties .update ps, ∃ after, readField .encode q w = .ok after ∧
        ThinnedEntry removed nulled q (Dict.get? entries q.storedKey) after := fun q hq => by
      obtain ⟨hoptional, hundefined⟩ := of_mem_viewProperties_update hq
      exact hthinned.exists_readField hoptional hundefined (hread q hq)
    have hreadable : ∀ q ∈ viewProperties .update ps, ∃ o, readField .encode q w = .ok o :=
      fun q hq => (hentry q hq).imp fun _ => And.left
    obtain ⟨out, hout⟩ := exists_parse_struct_eq_ok hreadable
    obtain ⟨-, hread', hother⟩ := (parse_struct_eq_ok_iff hwritten).mp hout
    refine ⟨out, hout, fun q hq => ?_, hother⟩
    obtain ⟨after, hafter, hthins⟩ := hentry q hq
    obtain rfl := Except.ok.inj (hafter.symm.trans (hread' q hq))
    exact hthins

/-- A change of a row of `ledger`, with a member that no property reads. -/
def ledgerChange : Dict Json :=
  [("id", .int 1), ("made", .string "2025-01-01T12:00:00Z"), ("note", .string "paid")]

/-- What is stored of the change. -/
def ledgerChangeStored : Dict Json :=
  [("made_at", .string "2025-01-01T12:00:00Z"), ("note", .string "paid")]

/-- The change without one of its members, and with `null` for the others. -/
def ledgerChangeThinned : Dict Json :=
  [("made", .null), ("note", .null)]

theorem thinned_ledgerChange :
    Thinned {"id"} {"made", "note"} ledgerChange ledgerChangeThinned where
  get?_of_removed := by
    rintro key rfl
    rfl
  get?_of_nulled := by
    rintro key (rfl | rfl) <;> rfl
  get?_of_untouched := by
    intro key hremoved hnulled
    simp only [Set.mem_singleton_iff, Set.mem_insert_iff, not_or] at hremoved hnulled
    simp [ledgerChange, ledgerChangeThinned, Dict.get?, Ne.symm hremoved, Ne.symm hnulled.1,
      Ne.symm hnulled.2]

theorem encode_updatable_thinned_ledger :
    (ledger.map Property.storedKey).Nodup ∧
      (Schema.struct ledger).updatable.encode (.object ledgerChange) =
        .ok (.object ledgerChangeStored) ∧
      Thinned {"id"} {"made", "note"} ledgerChange ledgerChangeThinned ∧
      ∃ qs, (Schema.struct ledger).updatable = .struct qs ∧
        ∃ out : Dict Json,
          (Schema.struct ledger).updatable.encode (.object ledgerChangeThinned) =
              .ok (.object out) ∧
            (∀ q ∈ qs, ThinnedEntry {"id"} {"made", "note"} q
              (ledgerChangeStored.get? q.storedKey) (out.get? q.storedKey)) ∧
            ∀ key, key ∉ qs.map Property.storedKey → out.get? key = none := by
  have hkeys : (ledger.map Property.storedKey).Nodup := by decide
  have hencode : (Schema.struct ledger).updatable.encode (.object ledgerChange) =
      .ok (.object ledgerChangeStored) := by
    decide
  obtain ⟨-, qs, hqs, hthin⟩ := encode_updatable_thinned hkeys
  obtain ⟨entries, hentries, hout⟩ := hthin _ _ hencode
  cases hentries
  exact ⟨hkeys, hencode, thinned_ledgerChange, qs, hqs, hout _ _ _ thinned_ledgerChange⟩

/-- There is a place for `null` beside the note, and none beside the date. -/
example :
    (Schema.struct ledger).updatable.encode (.object ledgerChangeThinned) =
      .ok (.object [("note", .null)]) := by
  decide

end RowSchema.Schema
