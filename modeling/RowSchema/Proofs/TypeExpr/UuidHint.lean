import RowSchema.Proofs.Text.Occurs
import RowSchema.TypeExpr.UuidHint

/-!
# When a text field holds UUIDs

There are four reasons to take a text field for one that holds UUIDs, and the judgement looks for
them one after the other. Three of them can be seen at once. The fourth is a default that makes
UUIDs: the arguments of a call are joined, and two marks are searched for in the joined text.

## Why joining does no harm

The reason itself is about single arguments: one of them has to mention UUIDs. Neither mark holds a
space, so what is found in the joined text does not lie across two arguments, and what stands in an
argument is still there when the arguments are joined. The second mark holds the first. So it is
enough to look for the first one, in each argument by itself.

## Main definitions

* `Datamodel.Field.HoldsUuids` — the reasons

## Main results

* `Datamodel.occurs_join_iff` — joining creates and hides no mark
* `Datamodel.DefaultValue.makesUuid_iff` — the defaults that make UUIDs
* `Datamodel.Field.isUuid_iff` — the judgement is that there is a reason
-/

namespace RowSchema.Datamodel

open Text (Occurs)

variable {mark text : String} {texts : List String}

theorem mentions_iff {part : String} : mentions part text = true ↔ Occurs part text :=
  Text.contains_toList_iff

/-! ### The marks -/

theorem occurs_uuid_of_mark (hmark : mark ∈ uuidMarks) (h : Occurs mark text) :
    Occurs "uuid" text := by
  have hwithin : ∀ mark ∈ uuidMarks, mentions "uuid" mark = true := by decide
  exact (mentions_iff.mp (hwithin mark hmark)).trans h

/-- **Joined arguments.** A mark occurs in them if and only if it occurs in one of them. -/
theorem occurs_join_iff (hmark : mark ∈ uuidMarks) (texts : List String) :
    Occurs mark (String.intercalate " " texts) ↔ ∃ text ∈ texts, Occurs mark text := by
  have hplain : ∀ mark ∈ uuidMarks, mark ≠ "" ∧ ' ' ∉ mark.toList := by decide
  obtain ⟨hne, hspace⟩ := hplain mark hmark
  exact Text.occurs_intercalate_iff rfl hne hspace texts

/-! ### Defaults -/

/-- Arguments can be joined if all of them are texts. -/
theorem mapM_string?_eq_some_iff {args : List Json} :
    args.mapM Json.string? = some texts ↔ args = texts.map .string := by
  induction args generalizing texts with
  | nil => cases texts <;> simp
  | cons arg rest ih =>
    cases arg with
    | string s =>
      simp only [List.mapM_cons, Json.string?, Option.bind_eq_bind, Option.bind_some,
        Option.pure_def, Option.bind_eq_some_iff, Option.some.injEq, ih]
      constructor
      · rintro ⟨others, rfl, rfl⟩
        rfl
      · intro h
        cases texts with
        | nil => cases h
        | cons t others =>
          cases h
          exact ⟨others, rfl, rfl⟩
    | _ => cases texts <;> simp [List.mapM_cons, Json.string?]

/-- The search in joined arguments finds a mark if one of the arguments mentions UUIDs. -/
theorem any_mentions_join_iff (texts : List String) :
    (uuidMarks.any (mentions · (String.intercalate " " texts))) = true ↔
      ∃ text ∈ texts, Occurs "uuid" text := by
  simp only [List.any_eq_true, mentions_iff]
  constructor
  · rintro ⟨mark, hmark, h⟩
    obtain ⟨text, htext, hoccurs⟩ := (occurs_join_iff hmark texts).mp h
    exact ⟨text, htext, occurs_uuid_of_mark hmark hoccurs⟩
  · intro h
    have huuid : "uuid" ∈ uuidMarks := List.mem_cons_self
    exact ⟨"uuid", huuid, (occurs_join_iff huuid texts).mpr h⟩

/-- A default makes UUIDs if it is an expression of the database whose arguments are texts, one of
which mentions UUIDs. -/
theorem DefaultValue.makesUuid_iff {d : DefaultValue} :
    d.makesUuid = true ↔
      ∃ texts : List String, d = .call "dbgenerated" (texts.map .string) ∧
        ∃ text ∈ texts, Occurs "uuid" text := by
  constructor
  · intro h
    unfold makesUuid at h
    split at h
    · split at h
      · next args _ texts htexts =>
        rw [mapM_string?_eq_some_iff] at htexts
        exact ⟨texts, by rw [htexts], (any_mentions_join_iff texts).mp h⟩
      · cases h
    · cases h
  · rintro ⟨texts, rfl, h⟩
    have htexts : (texts.map Json.string).mapM Json.string? = some texts :=
      mapM_string?_eq_some_iff.mpr rfl
    rw [makesUuid, htexts]
    exact (any_mentions_join_iff texts).mpr h

/-- A mark that is divided between two arguments does not count. -/
example : (DefaultValue.call "dbgenerated" [.string "uu", .string "id()"]).makesUuid = false := by
  decide

/-! ### Names -/

theorem isUuidName_iff {name : String} :
    isUuidName name = true ↔
      name = "id" ∨ name = "uuid" ∨ (∃ stem, name = stem ++ "_id") ∨
        ∃ stem, name = stem ++ "_uuid" := by
  simp only [isUuidName, Bool.or_eq_true, beq_iff_eq, Text.isSuffixOf_toList_iff, or_assoc]

/-! ### Fields -/

/-- Why a text field holds UUIDs. -/
inductive Field.HoldsUuids (f : Field) : Prop
  /-- The type of the column in the database says so. -/
  | nativeType {type : NativeType} (htype : f.nativeType = some type) (hname : type.name = "Uuid")
  /-- The documentation says so. -/
  | documentation {doc : String} (hdoc : f.documentation = some doc) (h : Occurs "@db.Uuid" doc)
  /-- The field identifies the row, and the database fills it in by an expression all of whose
  arguments are texts, one of which mentions UUIDs. -/
  | default {texts : List String} {text : String} (hid : f.isId = true)
      (hdefault : f.hasDefaultValue = true)
      (hcall : f.default = some (.call "dbgenerated" (texts.map .string)))
      (htext : text ∈ texts) (h : Occurs "uuid" text)
  /-- The field is named like an identifier. -/
  | name (h : f.name = "id" ∨ f.name = "uuid" ∨ (∃ stem, f.name = stem ++ "_id") ∨
      ∃ stem, f.name = stem ++ "_uuid")

/-- **A text field is taken for one that holds UUIDs if there is a reason for it.** No reason is
created or hidden when arguments are joined. -/
theorem Field.isUuid_iff :
    (∀ f : Field, f.isUuid = true ↔ f.HoldsUuids) ∧
    ∀ mark ∈ uuidMarks, ∀ texts : List String,
      mentions mark (String.intercalate " " texts) = true ↔ ∃ text ∈ texts, Occurs mark text := by
  refine ⟨fun f => ?_, fun mark hmark texts => mentions_iff.trans (occurs_join_iff hmark texts)⟩
  have hiff : f.isUuid = true ↔
      (((∃ type, f.nativeType = some type ∧ type.name = "Uuid") ∨
        ∃ doc, f.documentation = some doc ∧ Occurs "@db.Uuid" doc) ∨
        (f.isId = true ∧ f.hasDefaultValue = true) ∧
          ∃ d, f.default = some d ∧ d.makesUuid = true) ∨ isUuidName f.name = true := by
    simp only [isUuid, Bool.or_eq_true, Bool.and_eq_true, Option.any_eq_true, beq_iff_eq,
      mentions_iff]
  rw [hiff]
  constructor
  · rintro (((⟨type, htype, hname⟩ | ⟨doc, hdoc, h⟩) | ⟨⟨hid, hdefault⟩, d, hd, hmakes⟩) | hname)
    · exact .nativeType htype hname
    · exact .documentation hdoc h
    · obtain ⟨texts, rfl, text, htext, h⟩ := DefaultValue.makesUuid_iff.mp hmakes
      exact .default hid hdefault hd htext h
    · exact .name (isUuidName_iff.mp hname)
  · rintro (⟨htype, hname⟩ | ⟨hdoc, h⟩ | ⟨hid, hdefault, hcall, htext, h⟩ | h)
    · exact .inl (.inl (.inl ⟨_, htype, hname⟩))
    · exact .inl (.inl (.inr ⟨_, hdoc, h⟩))
    · exact .inl (.inr ⟨⟨hid, hdefault⟩, _, hcall,
        DefaultValue.makesUuid_iff.mpr ⟨_, rfl, _, htext, h⟩⟩)
    · exact .inr (isUuidName_iff.mpr h)

/-- A key that the database makes, by a function whose name is divided between two arguments. -/
def madeKey : Field :=
  ⟨"pk", none, .scalar, false, true, true, true, "String", none,
    some (.call "dbgenerated" [.string "gen_random_", .string "uuid()"]), none⟩

theorem isUuid_iff_madeKey :
    (madeKey.isUuid = true ∧ madeKey.HoldsUuids) ∧
    "gen_random_uuid" ∈ uuidMarks ∧
      (mentions "gen_random_uuid" (String.intercalate " " ["gen_random_", "uuid()"]) = true ↔
        ∃ text ∈ ["gen_random_", "uuid()"], Occurs "gen_random_uuid" text) := by
  obtain ⟨hfields, hmarks⟩ := Field.isUuid_iff
  have hmade : madeKey.isUuid = true := by decide
  have hmark : "gen_random_uuid" ∈ uuidMarks := by decide
  exact ⟨⟨hmade, (hfields madeKey).mp hmade⟩, hmark,
    hmarks "gen_random_uuid" hmark ["gen_random_", "uuid()"]⟩

end RowSchema.Datamodel
